import Mathlib.Data.List.Nodup
import Workflow.Json.Fields

/-!
# Fields are read back

A record is written from slots, one for each field it may have. `fields?_record` says that its slots are
read back, those left empty included; the lemmas after it do the same for what stands in one slot:
`optional_map`, `withDefault_ite`, `asListOf?_map`, `asDict?_ofDict`, `asNat?_natCast`,
`asInt64?_toInt`. A document has no misfits when its parts have none (`isPlain_arr`, `isPlain_obj`).
-/

namespace Workflow.Json

/-! ## Records -/

/-- The record with the given slots: an empty one leaves the field out. -/
def record (slots : List (String × Option Json)) : Json :=
  .obj (slots.flatMap fun s => field? s.1 id s.2)

section

variable {α : Type} {name key : String} {write : α → Json} {read : Json → Option α} {o : Option α}

theorem field?_map : field? name id (o.map write) = field? name write o := by
  cases o <;> rfl

theorem lookup_field? :
    (field? name write o).lookup key = if key = name then o.map write else none := by
  cases o with
  | none => simp [field?]
  | some a =>
    by_cases h : key = name
    · simp [field?, h]
    · simp [field?, h]

end

section

variable {slots : List (String × Option Json)}

theorem keys_record_sublist :
    ((slots.flatMap fun s => field? s.1 id s.2).map (·.1)).Sublist (slots.map (·.1)) := by
  induction slots with
  | nil => exact .slnil
  | cons s slots ih =>
    obtain ⟨name, value⟩ := s
    cases value with
    | none => exact ih.cons _
    | some value => exact ih.cons_cons _

theorem lookup_record (hnodup : (slots.map (·.1)).Nodup) : ∀ s ∈ slots,
    (slots.flatMap fun s => field? s.1 id s.2).lookup s.1 = s.2 := by
  induction slots with
  | nil => exact fun s hs => absurd hs List.not_mem_nil
  | cons first slots ih =>
    rw [List.map_cons, List.nodup_cons] at hnodup
    obtain ⟨hfirst, hnodup⟩ := hnodup
    intro s hs
    rw [List.flatMap_cons, List.lookup_append, lookup_field?]
    rcases List.mem_cons.1 hs with rfl | hs
    · -- an empty slot must not be taken for a later field of the same name
      have hlater : (slots.flatMap fun s => field? s.1 id s.2).lookup s.1 = none := by
        rw [List.lookup_eq_none_iff]
        intro member hmember
        have hkey : member.1 ∈ slots.map (·.1) :=
          keys_record_sublist.subset (List.mem_map_of_mem hmember)
        simpa using fun h : s.1 = member.1 => hfirst (h ▸ hkey)
      rw [if_pos rfl, hlater, Option.or_none, Option.map_id_fun, id_eq]
    · have hother : s.1 ≠ first.1 := fun h => hfirst (h ▸ List.mem_map_of_mem hs)
      rw [if_neg hother, Option.none_or, ih hnodup s hs]

/-- **The slots of a record** are read back. -/
theorem fields?_record {names : List String} (hnames : slots.map (·.1) = names)
    (hnodup : names.Nodup) : (record slots).fields? names = some (slots.map (·.2)) := by
  subst hnames
  have hsublist := @keys_record_sublist slots
  have hunique : uniqueKeys (slots.map (·.1)) (slots.flatMap fun s => field? s.1 id s.2) = true := by
    rw [uniqueKeys, List.all_eq_true]
    intro name _
    have hcount := List.nodup_iff_count_le_one.1 (hnodup.sublist hsublist) name
    rw [List.count_eq_countP, List.countP_map, List.countP_eq_length_filter] at hcount
    exact decide_eq_true hcount
  have hknown : passesOver (slots.map (·.1)) (slots.flatMap fun s => field? s.1 id s.2) = true := by
    rw [passesOver, List.all_eq_true]
    rintro ⟨key, value⟩ hmember
    have hkey := hsublist.subset (List.mem_map_of_mem (f := (·.1)) hmember)
    exact Bool.or_eq_true_iff.2 (.inl (List.contains_iff_mem.2 hkey))
  have hslots : (slots.map (·.1)).map
      (fun name => (slots.flatMap fun s => field? s.1 id s.2).lookup name) = slots.map (·.2) := by
    rw [List.map_map]
    exact List.map_congr_left (lookup_record hnodup)
  simp only [record, fields?, hunique, hknown, Bool.and_self, if_true, hslots]

@[simp] theorem slot_zero (s : Option Json) (slots : List (Option Json)) :
    slot (s :: slots) 0 = s := rfl

@[simp] theorem slot_succ (s : Option Json) (slots : List (Option Json)) (i : Nat) :
    slot (s :: slots) (i + 1) = slot slots i := rfl

end

/-! ## One slot -/

section

variable {α : Type} {write : α → Json} {read : Json → Option α}

@[simp] theorem required_some (value : Json) : required read (some value) = read value := by
  rw [required]

@[simp] theorem withDefault_some (default : α) (value : Json) :
    withDefault default read (some value) = read value := by
  rw [withDefault]

/-- A field that is left out for its default value is read back. -/
theorem withDefault_ite {c : Prop} [Decidable c] {default a : α} {value : Json} (hc : c → a = default)
    (hread : read value = some a) :
    withDefault default read (if c then none else some value) = some a := by
  split_ifs with h
  · rw [withDefault, hc h]
  · rw [withDefault_some, hread]

/-- **An optional field** is read back, where null is not written for a value. -/
theorem optional_map {o : Option α} (hnull : ∀ a, write a ≠ .null)
    (hread : ∀ a ∈ o, read (write a) = some a) : optional read (o.map write) = some o := by
  cases o with
  | none => rfl
  | some a =>
    have hvalue := hread a rfl
    rw [Option.map_some]
    unfold optional
    split
    · rename_i h
      exact absurd h (Option.some_ne_none _)
    · rename_i h
      exact absurd (Option.some.inj h) (hnull a)
    · rename_i h
      rw [← Option.some.inj h, hvalue, Option.map_some]

@[simp] theorem asString?_str (s : String) : asString? (.str s) = some s := rfl

@[simp] theorem asBool?_bool (b : Bool) : asBool? (.bool b) = some b := rfl

@[simp] theorem optional_str (o : Option String) : optional asString? (o.map .str) = some o :=
  optional_map (fun _ => Json.noConfusion) fun _ _ => rfl

@[simp] theorem optional_bool (o : Option Bool) : optional asBool? (o.map .bool) = some o :=
  optional_map (fun _ => Json.noConfusion) fun _ _ => rfl

theorem mapM_map_eq_some {β : Type} {write : α → β} {read : β → Option α} {l : List α}
    (h : ∀ a ∈ l, read (write a) = some a) : (l.map write).mapM read = some l := by
  induction l with
  | nil => rfl
  | cons a l ih =>
    rw [List.forall_mem_cons] at h
    rw [List.map_cons, List.mapM_cons, h.1, ih h.2]
    rfl

/-- **A list** is read back. -/
theorem asListOf?_map {l : List α} (h : ∀ a ∈ l, read (write a) = some a) :
    asListOf? read (.arr (l.map write)) = some l := mapM_map_eq_some h

end

/-- **A map from text to text** is read back. -/
theorem asDict?_ofDict (d : Dict) : asDict? (ofDict d) = some d := by
  rw [asDict?, ofDict, asMembers?, Option.bind_eq_bind, Option.bind_some, mapM_map_eq_some,
    Option.bind_eq_bind, Option.bind_some, Dict.ofList_entries, Option.pure_def]
  -- each entry by itself
  exact fun _ _ => rfl

theorem asNat?_natCast {n size : Nat} (h : n < size) : asNat? size (.int n) = some n := by
  simp [asNat?, asInt?, h]

@[simp] theorem asInt64?_toInt (n : Int64) : asInt64? (.int n.toInt) = some n := by
  have hrange : Int64.minValue.toInt ≤ n.toInt ∧ n.toInt ≤ Int64.maxValue.toInt :=
    ⟨n.minValue_le_toInt, n.toInt_le⟩
  simp only [asInt64?, asInt?, Option.bind_eq_bind, Option.bind_some, if_pos hrange, Int64.ofInt_toInt]

/-- A member of a list of named values is read back by its name. -/
theorem readNamed?_str {α : Type} {all : List α} {name : α → String} {blank : Json → Bool} {value : α}
    (h : all.find? (fun other => name other == name value) = some value) :
    readNamed? all name blank (.str (name value)) = some value := h

/-! ## Documents without misfits -/

theorem isPlain_arr (items : List Json) : isPlain (.arr items) = items.all isPlain := by
  simp only [isPlain, allMisfits, allMisfitsOfItems_eq_all]
  rfl

theorem isPlain_obj (members : List (String × Json)) :
    isPlain (.obj members) = members.all fun member => member.2.isPlain := by
  simp only [isPlain, allMisfits, allMisfitsOfMembers_eq_all]

theorem isPlain_single (key : String) (value : Json) :
    isPlain (.obj [(key, value)]) = value.isPlain := by
  rw [isPlain_obj, List.all_cons, List.all_nil, Bool.and_true]

theorem isPlain_ofDict (d : Dict) : (ofDict d).isPlain = true := by
  rw [ofDict, isPlain_obj, List.all_map]
  exact List.all_eq_true.2 fun _ _ => rfl

/-- A map is written in canonical form. -/
theorem canonical_ofDict (d : Dict) : (ofDict d).canonical = ofDict d := by
  have hobject : ofDict d = .obj (d.entries.map fun entry => (entry.1, .str entry.2)) := rfl
  have hvalues : canonicalMembers (d.entries.map fun entry => (entry.1, Json.str entry.2)) =
      d.entries.map fun entry => (entry.1, Json.str entry.2) := by
    rw [canonicalMembers_eq_map, List.map_map]
    exact List.map_congr_left fun _ _ => rfl
  have hsorted : SortedKeys (d.entries.map fun entry => (entry.1, Json.str entry.2)) := by
    unfold SortedKeys
    rw [List.map_map]
    exact d.sorted
  rw [hobject, canonical, hvalues, sortKeys_of_sortedKeys hsorted]

theorem isPlain_ofBinary64 (x : Binary64) : (ofBinary64 x).isPlain = true := by
  unfold ofBinary64
  split_ifs <;> rfl

end Workflow.Json
