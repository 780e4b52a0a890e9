import Mathlib.Data.List.Basic
import Workflow.Proofs.Text.Words
import Workflow.Proofs.Url.Host
import Workflow.Proofs.Url.Segments

/-!
# Authorities of URLs

A URL keeps the host of its authority and drops the port. Here the port is read once more, from the
text that the URL was read from.

* `Url.Authority`: scheme, host and port. A port that its scheme stands for is as good as none.
* `exists_of_parse?`: how a URL comes by its scheme and its host.
* `port?_of_host`: a URL without a host has no port.
* `colon_notMem_scheme`, `host_ne_empty`: what cannot be in a scheme, and what cannot be a host.
-/

namespace Workflow

namespace Host

theorem readIpv6?_ne_nil {text host : List Char} (h : readIpv6? text = some host) : host ≠ [] := by
  unfold readIpv6? at h
  split at h
  · split at h
    · obtain ⟨groups, -, h⟩ := Option.bind_eq_some_iff.1 h
      cases h
      simp
    · cases h
  · cases h

/-- A host is never empty. -/
theorem ofSpecial?_ne_nil {text host : List Char} (h : ofSpecial? text = some host) : host ≠ [] := by
  unfold ofSpecial? at h
  split at h
  · exact readIpv6?_ne_nil h
  unfold ofDomain? at h
  obtain ⟨decoded, -, h⟩ := Option.bind_eq_some_iff.1 h
  obtain ⟨domain, -, h⟩ := Option.bind_eq_some_iff.1 h
  split at h
  · cases h
  rename_i hdomain
  split at h
  · unfold readIpv4? at h
    obtain ⟨numbers, -, h⟩ := Option.bind_eq_some_iff.1 h
    obtain ⟨address, -, h⟩ := Option.bind_eq_some_iff.1 h
    cases h
    exact List.ne_nil_of_mem (mem_ipv4Text address)
  · cases h
    simpa using hdomain

theorem ofOther?_ne_nil {text host : List Char} (hne : text ≠ []) (h : ofOther? text = some host) :
    host ≠ [] := by
  unfold ofOther? at h
  split at h
  · exact readIpv6?_ne_nil h
  split at h
  · cases h
  · cases h
    exact Percent.encodeChars_ne_nil hne

end Host

namespace Url

open UrlPath

variable {uri : String} {url : Url} {scheme rest authority : List Char}

/-! ## Ports -/

/-- The port that a scheme stands for by itself. -/
def defaultPort? (scheme : String) : Option Nat :=
  if scheme = "http" ∨ scheme = "ws" then some 80
  else if scheme = "https" ∨ scheme = "wss" then some 443
  else if scheme = "ftp" then some 21
  else none

/-- The part of an authority behind its user. -/
def behindUser (authority : List Char) : List Char :=
  match splitUser? authority with
  | none => authority
  | some (_, place) => place

/-- The digits behind the host of an authority. -/
def portDigits (authority : List Char) : List Char :=
  match (splitHost false (behindUser authority)).2 with
  | ':' :: rest => rest.takeWhile Char.isDigit
  | _ => []

/-- The port of an authority, unless its scheme stands for it. -/
def portOf? (scheme : String) (authority : List Char) : Option Nat :=
  let digits := portDigits authority
  let value := digits.foldl (fun n c => n * 10 + (c.toNat - 48)) 0
  if digits.isEmpty ∨ defaultPort? scheme = some value then none else some value

/-- Whether a character belongs to an authority that has begun. -/
def isAuthorityChar (special : Bool) (c : Char) : Bool :=
  !(isSlash special c || c == '?' || c == '#')

/-- The authority behind a scheme, if one is announced. -/
def authorityText? (scheme rest : List Char) : Option (List Char) :=
  match schemeKind scheme with
  | .file => none
  | .special => some ((rest.dropWhile (isSlash true)).takeWhile (isAuthorityChar true))
  | .other =>
    match rest with
    | '/' :: '/' :: rest => some (rest.takeWhile (isAuthorityChar false))
    | _ => none

/-- The port that a text spells. -/
def port? (text : String) : Option Nat := do
  let (scheme, rest) ← splitScheme? (clean (trim text.toList))
  portOf? (String.ofList scheme) (← authorityText? scheme rest)

example : ["s3://u:1@data:9000/k:2", "s3://data:/k", "HTTPS://h:0443", "http:\\h:8\\k", "s3:/h:8",
    "s3://[::1]:8"].map port? = [some 9000, none, none, some 8, none, some 8] := by decide +kernel

/-- Where the URL of an object leads. -/
structure Authority where
  scheme : String
  host : Option String
  port : Option Nat
deriving DecidableEq

/-- The authority of the URL that a text spells. -/
def authority? (text : String) : Option Authority :=
  (parse? text).map fun url => ⟨url.scheme, url.host, port? text⟩

/-! ## Reading -/

/-- How a URL comes by its host, from the text behind its scheme: without an authority there is a
host in a file at most, and an authority has the host in front of its port. -/
inductive Hosts (scheme rest : List Char) (url : Url) : Prop where
  | without (htext : authorityText? scheme rest = none)
      (hhost : url.scheme ≠ "file" → url.host = none)
  | behind {authority user after : List Char} {special : Bool} {host : Option (List Char)}
      (htext : authorityText? scheme rest = some authority)
      (hplace : readPlace? special user (behindUser authority) = some (host, after))
      (hhost : url.host = host.map String.ofList)

theorem readPlace?_behindUser {special ended : Bool} {host : Option (List Char)} {after : List Char}
    (h : readAuthority? special ended authority = some (host, after)) :
    ∃ user, readPlace? special user (behindUser authority) = some (host, after) := by
  rw [readAuthority?_eq] at h
  unfold behindUser
  cases huser : splitUser? authority with
  | none =>
    rw [huser] at h
    exact ⟨[], h⟩
  | some found =>
    obtain ⟨user, place⟩ := found
    simp only [huser] at h
    split at h
    · cases h
    · exact ⟨user, h⟩

theorem hosts_ofAuthority? {special : Bool} {text : List Char}
    (h : ofAuthority? scheme special text = some url)
    (htext : authorityText? scheme rest = some (text.takeWhile (isAuthorityChar special))) :
    url.scheme = String.ofList scheme ∧ Hosts scheme rest url := by
  unfold ofAuthority? at h
  obtain ⟨⟨host, after⟩, hread, h⟩ := Option.bind_eq_some_iff.1 h
  cases h
  obtain ⟨user, hplace⟩ := readPlace?_behindUser hread
  exact ⟨rfl, .behind htext hplace rfl⟩

theorem scheme_ofFile? {text : List Char} (h : ofFile? text = some url) : url.scheme = "file" := by
  have hscheme : ∀ host path path', (if host == localHost then ofFilePath none path
      else ofFilePath (some host) path').scheme = "file" := by
    intro host path path'
    split
    · rfl
    · rfl
  unfold ofFile? at h
  split at h
  · split at h
    · simp only at h
      split at h
      · cases h
        rfl
      · split at h
        · cases h
          exact hscheme _ _ _
        · obtain ⟨host, -, h⟩ := Option.bind_eq_some_iff.1 h
          cases h
          exact hscheme _ _ _
    · cases h
      rfl
  · cases h
    rfl

theorem authorityText?_of_not_slashes (hkind : schemeKind scheme = .other)
    (h : ∀ later, rest ≠ '/' :: '/' :: later) : authorityText? scheme rest = none := by
  simp only [authorityText?, hkind]

/-- **How a URL comes by its scheme and its host.** -/
theorem exists_of_parse? (h : parse? uri = some url) : ∃ scheme rest,
    splitScheme? (clean (trim uri.toList)) = some (scheme, rest) ∧
      url.scheme = String.ofList scheme ∧ Hosts scheme rest url := by
  rw [parse?_eq, ofTrimmed?] at h
  obtain ⟨⟨scheme, rest⟩, hscheme, h⟩ := Option.bind_eq_some_iff.1 h
  refine ⟨scheme, rest, hscheme, ?_⟩
  simp only at h
  split at h
  · rename_i hkind
    have hfile := scheme_ofFile? h
    exact ⟨hfile.trans (ofList_file_iff.1 hkind).symm,
      .without (by simp [authorityText?, hkind]) fun hne => absurd hfile hne⟩
  · rename_i hkind
    exact hosts_ofAuthority? h (by simp [authorityText?, hkind])
  · rename_i hkind
    unfold ofOther? at h
    split at h
    · exact hosts_ofAuthority? h (by simp [authorityText?, hkind])
    · rename_i hslashes
      cases h
      refine ⟨rfl, .without (authorityText?_of_not_slashes hkind ?_) fun _ => rfl⟩
      rintro later ⟨⟩
      exact hslashes later rfl
    · rename_i hslashes hslash
      cases h
      exact ⟨rfl, .without (authorityText?_of_not_slashes hkind hslashes) fun _ => rfl⟩

/-! ## Ports -/

theorem port?_eq (hscheme : splitScheme? (clean (trim uri.toList)) = some (scheme, rest)) :
    port? uri = (authorityText? scheme rest).bind (portOf? (String.ofList scheme)) := by
  rw [port?, hscheme]
  rfl

/-- The part of an authority behind its user is nothing, or it starts with a host. -/
theorem readPlace?_cases {special : Bool} {user place after : List Char} {host : Option (List Char)}
    (h : readPlace? special user place = some (host, after)) :
    (host = none ∧ (splitHost false place).2 = []) ∨
      ∃ found, host = some found ∧ found ≠ [] := by
  unfold readPlace? at h
  split at h
  · split at h
    · cases h
    · rename_i hrefused
      cases h
      refine .inl ⟨rfl, ?_⟩
      by_contra hne
      simp [hne] at hrefused
  · rename_i hhost
    obtain ⟨found, hfound, h⟩ := Option.bind_eq_some_iff.1 h
    obtain ⟨text, -, h⟩ := Option.map_eq_some_iff.1 h
    cases h
    refine .inr ⟨found, rfl, ?_⟩
    split at hfound
    · exact Host.ofSpecial?_ne_nil hfound
    · exact Host.ofOther?_ne_nil (by simpa using hhost) hfound

/-- **Without a host there is no port.** -/
theorem port?_of_host (h : parse? uri = some url) (hhost : url.host = none) : port? uri = none := by
  obtain ⟨scheme, rest, hscheme, -, hhosts⟩ := exists_of_parse? h
  rw [port?_eq hscheme]
  cases hhosts with
  | without htext => rw [htext, Option.bind_none]
  | behind htext hplace hhost' =>
    -- an authority without a host ends where its host would
    rcases readPlace?_cases hplace with ⟨-, hafter⟩ | ⟨found, rfl, -⟩
    · rw [htext, Option.bind_some, portOf?, portDigits, hafter]
      rfl
    · rw [hhost] at hhost'
      cases hhost'

/-! ## Schemes and hosts -/

theorem toLower_ne_colon {c : Char} (h : isSchemeChar c = true) : c.toLower ≠ ':' := by
  intro hcolon
  cases hupper : c.isUpper with
  | true =>
    have hlower := Label.isLower_toLower hupper
    rw [hcolon] at hlower
    exact absurd hlower (by decide)
  | false =>
    rw [Label.toLower_of_not_isUpper hupper] at hcolon
    rw [hcolon] at h
    exact absurd h (by decide)

theorem colon_notMem_scheme (h : parse? uri = some url) : ':' ∉ url.scheme.toList := by
  obtain ⟨scheme, rest, hscheme, hurl, -⟩ := exists_of_parse? h
  rw [hurl, String.toList_ofList]
  unfold splitScheme? at hscheme
  split at hscheme
  · cases hscheme
  split at hscheme
  · split at hscheme
    · cases hscheme
      intro hmem
      obtain ⟨c, hc, hcolon⟩ := List.mem_map.1 hmem
      exact toLower_ne_colon (List.mem_takeWhile_imp hc) hcolon
    · cases hscheme
  · cases hscheme

theorem host_ne_empty (h : parse? uri = some url) (hfile : url.scheme ≠ "file") :
    url.host ≠ some "" := by
  obtain ⟨scheme, rest, hscheme, -, hhosts⟩ := exists_of_parse? h
  cases hhosts with
  | without _ hhost =>
    rw [hhost hfile]
    exact nofun
  | behind htext hplace hhost =>
    rw [hhost]
    rcases readPlace?_cases hplace with ⟨rfl, -⟩ | ⟨found, rfl, hne⟩
    · exact nofun
    · intro hempty
      exact hne (String.ofList_eq_empty_iff.1 (Option.some.inj hempty))

end Url

end Workflow
