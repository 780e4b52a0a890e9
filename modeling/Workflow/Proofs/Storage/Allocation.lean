import Workflow.Proofs.Storage.Destinations
import Workflow.Proofs.Storage.Separation
import Workflow.Proofs.Url.Prefix

/-!
# Uploads under a prefix

An upload under the URL of an object gets a key of its own: that of the prefix, then the id, then the
name of the file. The name is written with escapes, is a plain segment of the URL, and is read back by
its bytes. Only where the prefix ends right before its host does the id become the host.

* `Url.front`: what of a prefix stands in the URIs of its uploads.
* `RemoteLocation.IsUnder`: a key that begins with the key of another object of the store.
* `RemoteLocation.isUnder_of_continues`: URLs that go on by an id and a name have such keys.
* `StorageConfig.remotePath_under_iff`: uploads are under their prefix, unless their ids are hosts.
-/

namespace Workflow

namespace Url

open UrlPath

variable {uri : String} {l : RemoteLocation}

/-- A URI without blanks in front of it and slashes at its end. -/
def front (uri : String) : List Char := (Uri.dropEndSlashes uri.toList).dropWhile isOuter

theorem mem_of_mem_front {c : Char} (h : c ∈ front uri) : c ∈ uri.toList :=
  (List.rdropWhile_prefix _ _).subset ((List.dropWhile_sublist _).subset h)

/-- A URI that does not end in a blank is read up to its end. -/
theorem parse?_slashes (hend : ∀ c ∈ uri.toList.getLast?, isOuter c = false) :
    ∃ n, parse? uri = ofTrimmed? (front uri ++ List.replicate n '/') := by
  obtain ⟨⟨n, huri⟩, -⟩ := Uri.exists_dropEndSlashes uri.toList
  have hstart : uri.toList.dropWhile isOuter = front uri ++ List.replicate n '/' := by
    unfold front
    generalize Uri.dropEndSlashes uri.toList = text at huri ⊢
    rw [huri]
    cases n with
    | zero => rw [List.replicate_zero, List.append_nil, List.append_nil]
    | succ n => rw [List.replicate_succ, dropWhile_append_stop (by decide)]
  have hkept : Text.dropEndWhile isOuter (uri.toList.dropWhile isOuter) =
      uri.toList.dropWhile isOuter := by
    refine Text.dropEndWhile_eq_iff.2 ⟨⟨[], (List.append_nil _).symm, nofun⟩, fun c hc => hend c ?_⟩
    rwa [← Label.getLast?_of_suffix (List.dropWhile_suffix _)
      (List.ne_nil_of_mem (List.mem_of_getLast? hc))]
  exact ⟨n, by rw [parse?_eq, trim_eq, hkept, hstart]⟩

/-- The URL of an object whose host is to come has a scheme without domains and two slashes. -/
theorem AwaitsHost.of_parse? (hawaits : AwaitsHost (front uri))
    (hend : ∀ c ∈ uri.toList.getLast?, isOuter c = false) (h : RemoteLocation.parse? uri = some l) :
    ∃ scheme, splitScheme? (clean (front uri)) = some (scheme, ['/']) ∧
      schemeKind scheme = .other ∧ l.url.scheme = String.ofList scheme := by
  obtain ⟨scheme, rest, hscheme, hrest⟩ := hawaits
  obtain ⟨n, hread⟩ := parse?_slashes hend
  obtain ⟨hurl, hfile, -⟩ := RemoteLocation.of_parse? h
  rw [hread, ofTrimmed?_behind hscheme (slashes_cases n), clean_slashes] at hurl
  cases hkind : schemeKind scheme with
  | file =>
    simp only [hkind] at hurl
    exact absurd (scheme_ofFile? hurl) hfile
  | special =>
    simp only [hkind] at hurl hrest
    have hnone : (rest ++ List.replicate n '/').dropWhile (isSlash true) = [] := by
      refine List.dropWhile_eq_nil_iff.2 (List.forall_mem_append.2 ⟨hrest, fun c hc => ?_⟩)
      rw [List.eq_of_mem_replicate hc]
      rfl
    rw [hnone] at hurl
    cases hurl
  | other =>
    simp only [hkind] at hurl hrest
    subst hrest
    obtain ⟨path, hasSegments, hslashes, -⟩ := ofOther?_slashes scheme (n + 1)
    rw [List.singleton_append, ← List.replicate_succ, hslashes] at hurl
    exact ⟨scheme, hscheme, hkind, by rw [← Option.some.inj hurl]⟩

/-- Only dropped characters part the two slashes: without one, no host is to come. -/
theorem not_awaitsHost_front (hend : ∀ c ∈ uri.toList.getLast?, isOuter c = false)
    (h : RemoteLocation.parse? uri = some l) (hkept : clean uri.toList = uri.toList) :
    ¬ AwaitsHost (front uri) := by
  intro hawaits
  obtain ⟨scheme, hscheme, -⟩ := hawaits.of_parse? hend h
  obtain ⟨before, hfront⟩ := exists_of_splitScheme? hscheme
  have hclean : clean (front uri) = front uri := List.filter_eq_self.2 fun c hc =>
    List.filter_eq_self.1 hkept c (mem_of_mem_front hc)
  rw [hclean] at hfront
  have hlast : (front uri).getLast? = some '/' := by
    rw [hfront, List.getLast?_append_of_ne_nil _ (List.cons_ne_nil _ _)]
    rfl
  obtain ⟨-, hstop⟩ := Uri.exists_dropEndSlashes uri.toList
  have hsame : (front uri).getLast? = (Uri.dropEndSlashes uri.toList).getLast? :=
    Label.getLast?_of_suffix (List.dropWhile_suffix _) (List.ne_nil_of_mem (List.mem_of_getLast? hlast))
  exact hstop (hsame.symm.trans hlast)

end Url

namespace RemoteLocation

variable {uri : String} {l l' : RemoteLocation}

/-- The key is that of the path, escapes read. -/
theorem exists_path (h : parse? uri = some l) : ∃ path,
    Utf8.encodeChars path = Percent.decode l.url.path ∧ keyOf? path = some l.key.toList := by
  obtain ⟨-, -, -, path, hpath, hkey⟩ := parse?_eq_some_iff.1 h
  exact ⟨path, Utf8.encodeChars_of_decodeChars? hpath, hkey⟩

/-- An object of the same store whose key goes on behind a slash, if there is a key to go on. -/
structure IsUnder (l l' : RemoteLocation) (rest : String) : Prop where
  store : l'.store = l.store
  key : l'.key = if l.key = "" then rest else l.key ++ "/" ++ rest

/-- Keys under one object are different where they go on differently. -/
theorem IsUnder.inj {l₁ l₂ : RemoteLocation} {rest rest' : String} (h₁ : l.IsUnder l₁ rest)
    (h₂ : l.IsUnder l₂ rest') (h : l₁.key = l₂.key) : rest = rest' := by
  rw [h₁.key, h₂.key] at h
  split at h
  · exact h
  · exact (String.append_right_inj _).1 h

theorem IsUnder.length_le {rest : String} (h : l.IsUnder l' rest) : rest.length ≤ l'.key.length := by
  rw [h.key]
  split
  · exact Nat.le_refl _
  · rw [String.length_append]
    exact Nat.le_add_left _ _

/-- A path but for slashes at its end has the key of the path in front, be a slash behind it or
not. -/
theorem toList_key_of_closes {front before key : List Char} (h : parse? uri = some l)
    (hcloses : Url.Closes front l.url.path)
    (hbefore : Utf8.encodeChars before = Percent.decode front)
    (hkey : keyOf? before = some key) (hkey' : keyOf? (before ++ ['/']) = some key) :
    l.key.toList = key := by
  obtain ⟨path, hpath, hfound⟩ := exists_path h
  obtain hclosed | hclosed | ⟨more, hclosed⟩ := hcloses
  · rw [hclosed, ← hbefore] at hpath
    obtain rfl := Utf8.encodeChars_inj hpath
    exact Option.some.inj (hfound.symm.trans hkey)
  · have hslash : Utf8.encodeChars (before ++ ['/']) = Percent.decode l.url.path := by
      rw [hclosed, Percent.decode_append_slash, Utf8.encodeChars_append, hbefore]
      rfl
    obtain rfl := Utf8.encodeChars_inj (hpath.trans hslash.symm)
    exact Option.some.inj (hfound.symm.trans hkey')
  · -- behind two slashes there is no key
    rw [hclosed, Percent.decode_append_slash] at hpath
    obtain ⟨front, last, rfl, -, hlast⟩ :=
      Percent.exists_of_encodeChars_eq (c := '/') (by decide) hpath
    obtain rfl : last = ['/'] := Utf8.encodeChars_inj hlast
    rw [keyOf?_slashes] at hfound
    cases hfound

/-- **URLs that go on** by an id and a name are of objects under each other. -/
theorem isUnder_of_continues {base stem name : String} {id : FreshId}
    (hname : Uri.fileName? stem = some name) (h : parse? base = some l) (h' : parse? uri = some l')
    (hcontinues : Url.Continues l.url l'.url (id.segments (some stem))) :
    l.IsUnder l' (id.text ++ "/" ++ name) := by
  obtain ⟨-, -, hstore⟩ := of_parse? h
  obtain ⟨-, -, hstore'⟩ := of_parse? h'
  refine ⟨by rw [hstore, hstore', hcontinues.scheme, hcontinues.host], ?_⟩
  obtain ⟨path', hpath', hkey'⟩ := exists_path h'
  obtain ⟨front, hfront, hcloses⟩ := hcontinues.path
  -- the id and the name stand behind a slash of the path, as they stand in its bytes
  have htail : Utf8.encode id.text ++ FreshId.tail (((some stem).bind Uri.fileName?).map Utf8.encode) =
      Utf8.encodeChars (id.text ++ "/" ++ name).toList := by
    rw [Option.bind_some, hname, String.toList_append, String.toList_append, List.append_assoc,
      Utf8.encodeChars_append]
    rfl
  rw [hfront, FreshId.decode_segments, htail] at hpath'
  obtain ⟨before, after, rfl, hbefore, hafter⟩ :=
    Percent.exists_of_encodeChars_eq (c := '/') (by decide) hpath'
  obtain rfl := Utf8.encodeChars_inj hafter
  obtain ⟨hne, hslash, -⟩ := Uri.of_fileName? hname
  have hrest : (id.text ++ "/" ++ name).toList ≠ [] := by
    rw [String.toList_append]
    exact List.append_ne_nil_of_right_ne_nil _ hne
  have hlast : (id.text ++ "/" ++ name).toList.getLast? ≠ some '/' := by
    rw [String.toList_append, List.getLast?_append_of_ne_nil _ hne]
    exact fun hmem => hslash (List.mem_of_getLast? hmem)
  obtain ⟨parent, hparent, hparent', hbelow⟩ := keyOf?_parent hrest hlast hkey'
  have hlkey : l.key.toList = parent := toList_key_of_closes h hcloses hbefore hparent hparent'
  have hempty : parent = [] ↔ l.key = "" := by
    rw [← hlkey, ← String.toList_inj]
    rfl
  rw [← String.toList_inj, hbelow]
  simp only [hempty]
  split
  · rfl
  · rw [← hlkey]
    simp

end RemoteLocation

namespace StorageConfig

open UrlPath

variable {c : StorageConfig} {id : FreshId} {stem name base : String} {l l' : RemoteLocation}

/-- The URI of an upload is read as the id and the name behind the front of the prefix. -/
theorem parse?_remotePath (c : StorageConfig) (id : FreshId) (stem base : String) :
    Url.parse? (c.remotePath id (some stem) (some base)) =
      Url.ofTrimmed? (Url.front base ++ render (id.segments (some stem))) := by
  have htext := FreshId.toList_remotePath { c with rawOutputPrefix := some base } id (some stem)
  rw [outputPrefix, String.toList_ofList] at htext
  exact Url.parse?_append_render htext (id.segments_ne_nil _) (id.isPlain_segments _)

/-- **Uploads are under their prefix**, if no host is to come. -/
theorem isUnder_remotePath (hbase : RemoteLocation.parse? base = some l)
    (hfree : Url.QueryFree base.toList) (hend : ∀ c ∈ base.toList.getLast?, Url.isOuter c = false)
    (hhost : ¬ Url.AwaitsHost (Url.front base)) (hname : Uri.fileName? stem = some name)
    (h : RemoteLocation.parse? (c.remotePath id (some stem) (some base)) = some l') :
    l.IsUnder l' (id.text ++ "/" ++ name) := by
  obtain ⟨hurl, hfile, -⟩ := RemoteLocation.of_parse? hbase
  obtain ⟨hurl', -, -⟩ := RemoteLocation.of_parse? h
  obtain ⟨n, hread⟩ := Url.parse?_slashes hend
  have hfree' : Url.QueryFree (Url.front base) := hfree.of_subset fun _ => Url.mem_of_mem_front
  rw [hread] at hurl
  rw [parse?_remotePath] at hurl'
  exact RemoteLocation.isUnder_of_continues hname hbase h (Url.ofTrimmed?_continues hfree' hhost hurl
    hfile hurl' (id.segments_ne_nil _) (id.isPlain_segments _))

/-- Where a host is to come, the id is the host, and what is left of the path is the name. -/
theorem url_remotePath_awaited (c : StorageConfig) (id : FreshId)
    (hbase : RemoteLocation.parse? base = some l)
    (hend : ∀ c ∈ base.toList.getLast?, Url.isOuter c = false)
    (hhost : Url.AwaitsHost (Url.front base)) (hname : Uri.fileName? stem = some name) :
    Url.parse? (c.remotePath id (some stem) (some base)) =
      some ⟨l.url.scheme, some id.text, render [(Percent.encodeComponent name).toList], true⟩ := by
  obtain ⟨scheme, hscheme, hkind, hlscheme⟩ := hhost.of_parse? hend hbase
  have hsegments := id.segments_some hname
  have hplain : ∀ segment ∈ [(Percent.encodeComponent name).toList], IsPlain segment :=
    (List.forall_mem_cons.1 (hsegments ▸ id.isPlain_segments (some stem))).2
  have hquery : Url.beforeQuery (render [(Percent.encodeComponent name).toList]) =
      render [(Percent.encodeComponent name).toList] :=
    List.takeWhile_eq_self_iff.2 (Url.queryFree_render hplain)
  have hread := Url.ofTrimmed?_other hscheme id.isDigit id.length_eq hplain hkind rfl
  rw [Url.readPath_render false (List.cons_ne_nil _ _) hplain, hquery] at hread
  rw [parse?_remotePath, hsegments, hlscheme]
  exact hread

theorem parse?_remotePath_awaited (c : StorageConfig) (id : FreshId)
    (hbase : RemoteLocation.parse? base = some l)
    (hend : ∀ c ∈ base.toList.getLast?, Url.isOuter c = false)
    (hhost : Url.AwaitsHost (Url.front base)) (hname : Uri.fileName? stem = some name) :
    RemoteLocation.parse? (c.remotePath id (some stem) (some base)) = some l' ↔
      l'.url = ⟨l.url.scheme, some id.text, render [(Percent.encodeComponent name).toList], true⟩ ∧
        l'.store = l.url.scheme ++ "://" ++ id.text ∧
        RemoteLocation.keyOf? ('/' :: name.toList) = some l'.key.toList := by
  have hdecode : Percent.decode (render [(Percent.encodeComponent name).toList]) =
      Utf8.encodeChars ('/' :: name.toList) := by
    have hslash : Percent.decode ('/' :: (Percent.encodeComponent name).toList) =
        0x2F :: Percent.decode (Percent.encodeComponent name).toList :=
      Percent.decode_append_slash [] _
    rw [render, List.flatMap_singleton, hslash, Percent.decode_encodeComponent]
    rfl
  obtain ⟨-, hscheme, -⟩ := RemoteLocation.parse?_eq_some_iff.1 hbase
  rw [RemoteLocation.parse?_eq_some_iff, url_remotePath_awaited c id hbase hend hhost hname]
  constructor
  · rintro ⟨hurl, -, hstore, path, hpath, hkey⟩
    obtain hurl := (Option.some.inj hurl).symm
    rw [hurl, hdecode, Utf8.decodeChars?_encodeChars] at hpath
    obtain rfl := Option.some.inj hpath
    rw [hurl] at hstore
    exact ⟨hurl, hstore, hkey⟩
  · rintro ⟨hurl, hstore, hkey⟩
    rw [hurl]
    exact ⟨rfl, hscheme, hstore, _, by rw [hdecode, Utf8.decodeChars?_encodeChars], hkey⟩

/-- No key is shared there by two names. -/
theorem key_remotePath_awaited (hbase : RemoteLocation.parse? base = some l)
    (hend : ∀ c ∈ base.toList.getLast?, Url.isOuter c = false)
    (hhost : Url.AwaitsHost (Url.front base)) (hname : Uri.fileName? stem = some name)
    (h : RemoteLocation.parse? (c.remotePath id (some stem) (some base)) = some l') :
    l'.key = name := by
  obtain ⟨-, -, hkey⟩ := (parse?_remotePath_awaited c id hbase hend hhost hname).1 h
  obtain ⟨hne, hslash, -⟩ := Uri.of_fileName? hname
  have hlast : ('/' :: name.toList).getLast? ≠ some '/' := by
    rw [List.getLast?_cons_of_ne_nil hne]
    exact fun hmem => hslash (List.mem_of_getLast? hmem)
  have hpath := RemoteLocation.of_keyOf? (List.cons_ne_nil _ _) hlast hkey
  exact String.toList_inj.1 (List.cons.inj hpath).2.symm

/-- **Uploads keep their names.** They are under their prefix with an id and a name of their own,
except where the prefix ends right before its host. No two names have one key in any case. -/
theorem remotePath_under_iff (c : StorageConfig) (hbase : RemoteLocation.parse? base = some l)
    (hfree : Url.QueryFree base.toList) (hend : ∀ c ∈ base.toList.getLast?, Url.isOuter c = false) :
    ((∀ id stem name l', Uri.fileName? stem = some name →
        RemoteLocation.parse? (c.remotePath id (some stem) (some base)) = some l' →
        l.IsUnder l' (id.text ++ "/" ++ name)) ↔ ¬ Url.AwaitsHost (Url.front base)) ∧
      (∀ id stem stem' name name' l₁ l₂, Uri.fileName? stem = some name →
        Uri.fileName? stem' = some name' →
        RemoteLocation.parse? (c.remotePath id (some stem) (some base)) = some l₁ →
        RemoteLocation.parse? (c.remotePath id (some stem') (some base)) = some l₂ →
        l₁.key = l₂.key → name = name') := by
  refine ⟨⟨fun hall hhost => ?_, fun hhost id stem name l' =>
    isUnder_remotePath hbase hfree hend hhost⟩, ?_⟩
  · -- the key of such an upload is its name alone, which is shorter than an id
    have hname : Uri.fileName? "a.txt" = some "a.txt" := rfl
    have hkey : RemoteLocation.keyOf? ('/' :: "a.txt".toList) = some "a.txt".toList := rfl
    have hread : RemoteLocation.parse? (c.remotePath default (some "a.txt") (some base)) =
        some ⟨l.url.scheme ++ "://" ++ (default : FreshId).text, "a.txt", _⟩ :=
      (parse?_remotePath_awaited c default hbase hend hhost hname).2 ⟨rfl, rfl, hkey⟩
    have hlength : ((default : FreshId).text ++ "/" ++ "a.txt").length ≤ "a.txt".length :=
      (hall default "a.txt" "a.txt" _ hname hread).length_le
    exact absurd hlength (by decide)
  · intro id stem stem' name name' l₁ l₂ hname hname' h₁ h₂ hkey
    by_cases hhost : Url.AwaitsHost (Url.front base)
    · rw [← key_remotePath_awaited hbase hend hhost hname h₁, hkey,
        key_remotePath_awaited hbase hend hhost hname' h₂]
    · have hunder := isUnder_remotePath hbase hfree hend hhost hname h₁
      have hunder' := isUnder_remotePath hbase hfree hend hhost hname' h₂
      exact (String.append_right_inj _).1 (hunder.inj hunder' hkey)

/-- A name that looks like an escape and a query is the end of the key as it is. -/
theorem remotePath_under_bucket : ∃ l l', RemoteLocation.parse? "s3://bucket/raw/" = some l ∧
    l.store = "s3://bucket" ∧ l.key = "raw" ∧
    Uri.fileName? "in/50%41 é #?.txt" = some "50%41 é #?.txt" ∧
    RemoteLocation.parse? (({} : StorageConfig).remotePath default (some "in/50%41 é #?.txt")
      (some "s3://bucket/raw/")) = some l' ∧
    l'.store = "s3://bucket" ∧
    l'.key = "raw/" ++ (default : FreshId).text ++ "/50%41 é #?.txt" := by
  obtain ⟨l, hl⟩ : ∃ l, RemoteLocation.parse? "s3://bucket/raw/" = some l :=
    Option.isSome_iff_exists.1 (by decide +kernel)
  obtain ⟨l', hl'⟩ : ∃ l', RemoteLocation.parse? (({} : StorageConfig).remotePath default
      (some "in/50%41 é #?.txt") (some "s3://bucket/raw/")) = some l' :=
    Option.isSome_iff_exists.1 (by decide +kernel)
  have hplace : (RemoteLocation.parse? "s3://bucket/raw/").map (fun l => (l.store, l.key)) =
      some ("s3://bucket", "raw") := by decide +kernel
  rw [hl, Option.map_some, Option.some.injEq, Prod.mk.injEq] at hplace
  have hname : Uri.fileName? "in/50%41 é #?.txt" = some "50%41 é #?.txt" := by decide +kernel
  have hend : ∀ c ∈ "s3://bucket/raw/".toList.getLast?, Url.isOuter c = false := by
    rintro _ ⟨⟩
    rfl
  have hhost : ¬ Url.AwaitsHost (Url.front "s3://bucket/raw/") :=
    Url.not_awaitsHost_front hend hl (by decide +kernel)
  obtain ⟨hunder, -⟩ := remotePath_under_iff {} hl (by decide +kernel) hend
  have hkey := hunder.2 hhost default _ _ l' hname hl'
  refine ⟨l, l', hl, hplace.1, hplace.2, hname, hl', hkey.store.trans hplace.1, ?_⟩
  rw [hkey.key, hplace.2]
  decide +kernel

/-- Behind slashes that a tab parts, the id is the host and the name is the key. -/
theorem not_under_split_slashes : ∃ l l', RemoteLocation.parse? "s3:/\t/" = some l ∧
    Url.QueryFree "s3:/\t/".toList ∧
    (∀ c ∈ "s3:/\t/".toList.getLast?, Url.isOuter c = false) ∧
    Uri.fileName? "a.txt" = some "a.txt" ∧
    RemoteLocation.parse? (({} : StorageConfig).remotePath default (some "a.txt")
      (some "s3:/\t/")) = some l' ∧
    (l.store = "s3://" ∧ l.key = "") ∧
    l'.store = "s3://" ++ (default : FreshId).text ∧ l'.key = "a.txt" ∧
    ¬ l.IsUnder l' ((default : FreshId).text ++ "/" ++ "a.txt") := by
  obtain ⟨l, hl⟩ : ∃ l, RemoteLocation.parse? "s3:/\t/" = some l :=
    Option.isSome_iff_exists.1 (by decide +kernel)
  obtain ⟨l', hl'⟩ : ∃ l', RemoteLocation.parse? (({} : StorageConfig).remotePath default
      (some "a.txt") (some "s3:/\t/")) = some l' :=
    Option.isSome_iff_exists.1 (by decide +kernel)
  have hplace : (RemoteLocation.parse? "s3:/\t/").map (fun l => (l.store, l.key)) =
      some ("s3://", "") := by decide +kernel
  have hplace' : (RemoteLocation.parse? (({} : StorageConfig).remotePath default (some "a.txt")
      (some "s3:/\t/"))).map (fun l => (l.store, l.key)) =
        some ("s3://" ++ (default : FreshId).text, "a.txt") := by decide +kernel
  rw [hl, Option.map_some, Option.some.injEq, Prod.mk.injEq] at hplace
  rw [hl', Option.map_some, Option.some.injEq, Prod.mk.injEq] at hplace'
  have hend : ∀ c ∈ "s3:/\t/".toList.getLast?, Url.isOuter c = false := by
    rintro _ ⟨⟩
    rfl
  refine ⟨l, l', hl, by decide +kernel, hend, by decide +kernel, hl', hplace, hplace'.1, hplace'.2,
    fun hunder => ?_⟩
  have hstore := hunder.store
  rw [hplace.1, hplace'.1] at hstore
  exact absurd hstore (by decide +kernel)

end StorageConfig

end Workflow
