import Mathlib.Data.List.Basic
import Workflow.Proofs.Url.Path
import Workflow.Storage.Uri

/-!
# Objects and their keys

A URI leads to an object if its URL has the scheme of a store. The key of the object is the path of
the URL, escapes read, without a slash at either end. It is nothing, or segments with single slashes
between them, so no path with two slashes at its end has one.

* `IsKey`: what can be a key, but for the empty one.
* `keyOf?_eq_some_iff`: the paths that have a key.
* `keyOf?_inj`: two paths that do not end in a slash have two keys.
* `keyOf?_parent`: the key of a path begins with the key of what is in front of it.
* `parse?_eq_some_iff`: the object that a URI leads to, by its URL.
-/

namespace Workflow

theorem Uri.isRemote_iff {uri : String} {url : Url} (h : Url.parse? uri = some url) :
    isRemote uri = true ↔ url.scheme ≠ "file" ∧ 1 < url.scheme.length := by
  unfold isRemote
  rw [h]
  simp

namespace RemoteLocation

variable {path path' front tail key : List Char}

/-- Segments with slashes between them. -/
def IsKey (key : List Char) : Prop := ∀ segment ∈ key.splitOn '/', isKeySegment segment = true

namespace IsKey

theorem append (h : IsKey (front ++ '/' :: tail)) : IsKey front ∧ IsKey tail := by
  unfold IsKey at h
  rwa [List.splitOn_append_cons_self, List.forall_mem_append] at h

theorem ne_nil (h : IsKey key) : key ≠ [] := by
  rintro rfl
  exact absurd (h [] List.mem_cons_self) (by decide)

theorem head?_ne (h : IsKey key) : key.head? ≠ some '/' := by
  intro hhead
  obtain ⟨tail, rfl⟩ := List.head?_eq_some_iff.1 hhead
  have hsplit : IsKey ([] ++ '/' :: tail) := h
  exact hsplit.append.1.ne_nil rfl

theorem getLast?_ne (h : IsKey key) : key.getLast? ≠ some '/' := by
  intro hlast
  obtain ⟨front, rfl⟩ := List.getLast?_eq_some_iff.1 hlast
  exact h.append.2.ne_nil rfl

end IsKey

/-- What may stand at either end of a path and is no part of its key. -/
def IsClosing (slashes : List Char) : Prop := slashes = [] ∨ slashes = ['/']

theorem keyOf?_append {lead trail : List Char} (hlead : IsClosing lead) (h : IsKey key)
    (htrail : IsClosing trail) : keyOf? (lead ++ key ++ trail) = some key := by
  have hne : key ++ trail ≠ [] := List.append_ne_nil_of_left_ne_nil h.ne_nil _
  have hbody : (if (lead ++ key ++ trail).head? = some '/' then (lead ++ key ++ trail).drop 1
      else lead ++ key ++ trail) = key ++ trail := by
    obtain rfl | rfl := hlead
    · have hhead : (key ++ trail).head? ≠ some '/' := by
        obtain ⟨c, rest, rfl⟩ := List.exists_cons_of_ne_nil h.ne_nil
        exact h.head?_ne
      exact if_neg hhead
    · exact if_pos rfl
  have hend : (if (key ++ trail).getLast? = some '/' then (key ++ trail).dropLast
      else key ++ trail) = key := by
    obtain rfl | rfl := htrail
    · rw [List.append_nil, if_neg h.getLast?_ne]
    · rw [List.getLast?_concat, if_pos rfl, List.dropLast_concat]
  simp only [keyOf?, hbody, hend]
  rw [if_neg (by simpa using hne), if_pos (List.all_eq_true.2 h)]

/-- **The key of a path** is what stands between its first and its last character, if these are
slashes. -/
theorem keyOf?_eq_some_iff : keyOf? path = some key ↔ key = [] ∧ IsClosing path ∨
    IsKey key ∧ ∃ lead trail, IsClosing lead ∧ IsClosing trail ∧ path = lead ++ key ++ trail := by
  constructor
  · intro h
    obtain ⟨lead, body, hlead, hpath, hbody⟩ : ∃ lead body, IsClosing lead ∧ path = lead ++ body ∧
        (if path.head? = some '/' then path.drop 1 else path) = body := by
      split
      · rename_i hhead
        obtain ⟨rest, rfl⟩ := List.head?_eq_some_iff.1 hhead
        exact ⟨['/'], rest, .inr rfl, rfl, rfl⟩
      · exact ⟨[], path, .inl rfl, rfl, rfl⟩
    simp only [keyOf?, hbody] at h
    split at h
    · rename_i hempty
      rw [List.isEmpty_iff] at hempty
      rw [hpath, hempty, List.append_nil]
      exact .inl ⟨(Option.some.inj h).symm, hlead⟩
    · obtain ⟨inner, trail, htrail, hsplit, hinner⟩ : ∃ inner trail, IsClosing trail ∧
          body = inner ++ trail ∧
          (if body.getLast? = some '/' then body.dropLast else body) = inner := by
        split
        · rename_i hlast
          obtain ⟨inner, rfl⟩ := List.getLast?_eq_some_iff.1 hlast
          exact ⟨inner, ['/'], .inr rfl, rfl, List.dropLast_concat⟩
        · exact ⟨body, [], .inl rfl, (List.append_nil body).symm, rfl⟩
      rw [hinner] at h
      split at h
      · rename_i hall
        cases h
        exact .inr ⟨List.all_eq_true.1 hall, lead, trail, hlead, htrail,
          by rw [hpath, hsplit, List.append_assoc]⟩
      · cases h
  · rintro (⟨rfl, rfl | rfl⟩ | ⟨h, lead, trail, hlead, htrail, rfl⟩)
    · rfl
    · rfl
    · exact keyOf?_append hlead h htrail

/-- Behind its first slash, a path that does not end in one is the key. -/
theorem of_keyOf? (hne : path ≠ []) (hlast : path.getLast? ≠ some '/')
    (h : keyOf? path = some key) : path = if path.head? = some '/' then '/' :: key else key := by
  obtain ⟨-, rfl | rfl⟩ | ⟨hkey, lead, trail, hlead, rfl | rfl, rfl⟩ := keyOf?_eq_some_iff.1 h
  · exact absurd rfl hne
  · exact absurd rfl hlast
  · rw [List.append_nil]
    obtain rfl | rfl := hlead
    · exact (if_neg hkey.head?_ne).symm
    · rfl
  · exact absurd List.getLast?_concat hlast

/-- **Two keys are different** where the paths are. -/
theorem keyOf?_inj (hhead : path.head? = some '/' ↔ path'.head? = some '/') (hne : path ≠ [])
    (hne' : path' ≠ []) (hlast : path.getLast? ≠ some '/') (hlast' : path'.getLast? ≠ some '/')
    (h : keyOf? path = some key) (h' : keyOf? path' = some key) : path = path' := by
  rw [of_keyOf? hne hlast h, of_keyOf? hne' hlast' h']
  simp only [hhead]

/-- Two slashes at the end of a path have an empty segment between them. -/
theorem keyOf?_slashes (front : List Char) : keyOf? (front ++ ['/', '/']) = none := by
  rw [Option.eq_none_iff_forall_ne_some]
  intro key h
  have hsplit : front ++ ['/', '/'] = front ++ ['/'] ++ ['/'] := by rw [List.append_assoc]; rfl
  obtain ⟨-, hpath⟩ | ⟨hkey, lead, trail, -, rfl | rfl, hpath⟩ := keyOf?_eq_some_iff.1 h
  · rcases hpath with hpath | hpath
    · simp at hpath
    · have hlength := congrArg List.length hpath
      simp at hlength
  · have hlast := congrArg List.getLast? hpath
    rw [hsplit, List.append_nil, List.getLast?_concat,
      List.getLast?_append_of_ne_nil _ hkey.ne_nil] at hlast
    exact hkey.getLast?_ne hlast.symm
  · have hlast := congrArg List.getLast? (List.append_inj' (hsplit.symm.trans hpath) rfl).1
    rw [List.getLast?_concat, List.getLast?_append_of_ne_nil _ hkey.ne_nil] at hlast
    exact hkey.getLast?_ne hlast.symm

/-- **The key of a path** begins with the key of what is in front of it, be a slash at its end or
not. -/
theorem keyOf?_parent (hne : tail ≠ []) (hlast : tail.getLast? ≠ some '/')
    (h : keyOf? (front ++ '/' :: tail) = some key) : ∃ parent, keyOf? front = some parent ∧
      keyOf? (front ++ ['/']) = some parent ∧
      key = if parent = [] then tail else parent ++ '/' :: tail := by
  have hend : (front ++ '/' :: tail).getLast? ≠ some '/' := by
    rwa [List.getLast?_append_of_ne_nil _ (List.cons_ne_nil _ _), List.getLast?_cons_of_ne_nil hne]
  obtain ⟨-, hpath⟩ | ⟨hkey, lead, trail, hlead, rfl | rfl, hpath⟩ := keyOf?_eq_some_iff.1 h
  · have hlength := List.length_pos_iff.2 hne
    rcases hpath with hpath | hpath
    · simp at hpath
    · have htotal := congrArg List.length hpath
      simp at htotal
      omega
  · rw [List.append_nil] at hpath
    -- the slash in front of the tail is the first character of the path, or stands in the key
    have hsplit : front = [] ∧ key = tail ∨
        ∃ parent, front = lead ++ parent ∧ key = parent ++ '/' :: tail := by
      obtain rfl | rfl := hlead
      · exact .inr ⟨front, rfl, hpath.symm⟩
      · cases front with
        | nil => exact .inl ⟨rfl, (List.cons.inj hpath).2.symm⟩
        | cons c front =>
          obtain ⟨rfl, hrest⟩ := List.cons.inj hpath
          exact .inr ⟨front, rfl, hrest.symm⟩
    obtain ⟨rfl, rfl⟩ | ⟨parent, rfl, rfl⟩ := hsplit
    · exact ⟨[], rfl, rfl, (if_pos rfl).symm⟩
    · have hparent : IsKey parent := hkey.append.1
      have hfront := keyOf?_append hlead hparent (.inl rfl)
      rw [List.append_nil] at hfront
      exact ⟨parent, hfront, keyOf?_append hlead hparent (.inr rfl),
        (if_neg hparent.ne_nil).symm⟩
  · rw [hpath] at hend
    exact absurd List.getLast?_concat hend

/-- **The object that a URI leads to**, by its URL. -/
theorem parse?_eq_some_iff {uri : String} {l : RemoteLocation} : parse? uri = some l ↔
    Url.parse? uri = some l.url ∧ (l.url.scheme ≠ "file" ∧ 1 < l.url.scheme.length) ∧
      l.store = l.url.scheme ++ "://" ++ l.url.host.getD "" ∧
      ∃ path, Utf8.decodeChars? (Percent.decode l.url.path) = some path ∧
        keyOf? path = some l.key.toList := by
  constructor
  · intro h
    unfold parse? at h
    obtain ⟨url, hurl, h⟩ := Option.bind_eq_some_iff.1 h
    split at h
    · rename_i hremote
      obtain ⟨path, hpath, h⟩ := Option.bind_eq_some_iff.1 h
      obtain ⟨key, hkey, h⟩ := Option.bind_eq_some_iff.1 h
      cases h
      exact ⟨hurl, (Uri.isRemote_iff hurl).1 hremote, rfl, path, hpath,
        by rw [String.toList_ofList]; exact hkey⟩
    · cases h
  · rintro ⟨hurl, hscheme, hstore, path, hpath, hkey⟩
    have hremote := (Uri.isRemote_iff hurl).2 hscheme
    simp only [parse?, hurl, hpath, hkey, Option.bind_eq_bind, Option.bind_some, if_pos hremote,
      String.ofList_toList, ← hstore]
    rfl

end RemoteLocation

end Workflow
