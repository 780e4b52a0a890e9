import Workflow.Marshal.Registry

/-!
# Looking types up in reverse

The registry of a fresh session leads from a host type to its literal type, and in reverse from a
literal type to a host type.

* `hosts_standard`: at most one of its transformers claims a literal type, and which host type that
  one gives depends on the kind of the literal type alone (`hostOf?`).
* `resolve_rule`, `resolve_fileOf`: the host types so given lead back to the same transformer.
* `standard_reverses`: so the two directions agree wherever the reverse one answers.
-/

namespace Workflow

namespace LiteralType

/-- Two types that differ in their own annotations at most. -/
def SameKind (a b : LiteralType) : Prop := a.setMetadata none = b.setMetadata none

/-- The types that a host type stands for: the simple ones other than structures and bytes, and one
object of any format. -/
def IsHosted : LiteralType → Prop
  | .simple type _ => type ≠ .struct ∧ type ≠ .binary
  | .blob type _ => type.dimensionality = .single
  | _ => False

end LiteralType

namespace Registry

variable {r : Registry} {type : LiteralType} {t : HostType} {host : HostType}

/-! ## Claims -/

/-- The host types that are given for a literal type, one by each transformer that claims it. -/
def hosts (r : Registry) (type : LiteralType) : List HostType := (r.claims type).map (·.2)

theorem hosts_eq (r : Registry) (type : LiteralType) :
    r.hosts type = r.reachable.filterMap fun t => (t.hostType type).toOption := by
  unfold hosts claims
  rw [List.map_filterMap]
  congr 1
  funext t
  cases t.hostType type <;> rfl

/-- The answer for a literal type, if there is one. -/
theorem toOption_hostTypeOf (h : (r.claims type).length ≤ 1) :
    (r.hostTypeOf type).toOption = (r.hosts type).head? := by
  unfold hostTypeOf hosts
  cases hclaims : r.claims type with
  | nil => rfl
  | cons claim rest =>
    obtain rfl : rest = [] := by
      rw [hclaims, List.length_cons] at h
      exact List.eq_nil_of_length_eq_zero (by omega)
    rfl

/-- The host type that stands for a literal type. -/
def hostOf? : LiteralType → Option HostType
  | .simple type _ => (PrimitiveRule.defaults.find? (·.simple == type)).map (·.hostType)
  | .blob type _ =>
    if type.dimensionality = .single then
      some (if type.format = Sealing.format then .sealed else .fileOf type.format)
    else none
  | _ => none

/-- The transformer of a rule claims its own simple type. -/
theorem toOption_hostTypeOf_rule (rule : PrimitiveRule) (type : LiteralType) :
    (rule.hostTypeOf type).toOption =
      if type.setMetadata none = .ofSimple rule.simple then some rule.hostType else none := by
  cases type with
  | simple type m =>
    simp only [PrimitiveRule.hostTypeOf, LiteralType.setMetadata, LiteralType.ofSimple,
      LiteralType.simple.injEq, and_true]
    split
    · rfl
    · rfl
  | blob type m => rfl
  | collection item m => rfl
  | map value m => rfl

/-- The transformer of files and that of sealed values share the blobs of one object between
them. -/
theorem toOption_hostTypeOf_blob (type : BlobType) (m : Option Dict) :
    [Files.transformer, fallback].filterMap (fun t => (t.hostType (.blob type m)).toOption) =
      (hostOf? (.blob type m)).toList := by
  obtain ⟨format, dimensionality⟩ := type
  cases dimensionality with
  | multipart => simp [Files.transformer, Files.hostTypeOf, fallback, Sealing.transformer,
      Sealing.hostTypeOf, LiteralType.asBlob?, BlobType.single, hostOf?, Except.toOption]
  | single =>
    by_cases hformat : format = Sealing.format
    · subst hformat
      rfl
    · simp [Files.transformer, Files.hostTypeOf, fallback, Sealing.transformer,
        Sealing.hostTypeOf, LiteralType.asBlob?, BlobType.single, hostOf?, hformat,
        Except.toOption]

theorem reachable_standard : standard.reachable =
    PrimitiveRule.defaults.reverse.map PrimitiveRule.transformer ++
      [Files.transformer, fallback] := rfl

/-- **At most one transformer claims a literal type**, by its kind. -/
theorem hosts_standard (type : LiteralType) : standard.hosts type = (hostOf? type).toList := by
  have hrules : ∀ rules : List PrimitiveRule,
      (rules.map PrimitiveRule.transformer).filterMap (fun t => (t.hostType type).toOption) =
        rules.filterMap fun rule =>
          if type.setMetadata none = .ofSimple rule.simple then some rule.hostType else none := by
    intro rules
    rw [List.filterMap_map]
    congr 1
    funext rule
    exact toOption_hostTypeOf_rule rule type
  rw [hosts_eq, reachable_standard, List.filterMap_append, hrules]
  cases type with
  | simple type m => cases type <;> rfl
  | blob type m => exact toOption_hostTypeOf_blob type m
  | collection item m => rfl
  | map value m => rfl

theorem length_claims_standard (type : LiteralType) : (standard.claims type).length ≤ 1 := by
  have hlength : (standard.claims type).length = (standard.hosts type).length := by
    rw [hosts, List.length_map]
  rw [hlength, hosts_standard]
  cases hostOf? type <;> simp

theorem hostTypeOf_standard_eq_ok : standard.hostTypeOf type = .ok host ↔ hostOf? type = some host := by
  have hanswer := toOption_hostTypeOf (length_claims_standard type)
  have hhead : (hostOf? type).toList.head? = hostOf? type := by cases hostOf? type <;> rfl
  rw [hosts_standard, hhead] at hanswer
  rw [← hanswer]
  cases standard.hostTypeOf type <;> simp [Except.toOption]

/-! ## Keys -/

theorem resolve_of_name {transformer : Transformer}
    (h : r.get? (.ofHostType t) = some transformer) : r.resolve t = transformer := by
  unfold resolve TypeKey.candidates
  rw [List.findSome?_cons, h]
  rfl

theorem resolve_rule {rule : PrimitiveRule} (h : rule ∈ PrimitiveRule.defaults) :
    standard.resolve rule.hostType = rule.transformer := by
  refine resolve_of_name ?_
  simp only [PrimitiveRule.defaults, List.mem_cons, List.not_mem_nil, or_false] at h
  rcases h with rfl | rfl | rfl | rfl | rfl | rfl | rfl <;> rfl

/-- The names that transformers are registered under. -/
def standardNames : List String :=
  PrimitiveRule.defaults.reverse.map (·.hostType.name) ++ [HostType.pathLike.name, HostType.fileName]

/-- No other name is a key. -/
theorem get?_standard_of_not_mem {name : String} (h : name ∉ standardNames) :
    standard.get? (.type name) = none := by
  have hkeys : standard.entries.map (·.1) = PrimitiveRule.defaults.reverse.map
      (fun rule => TypeKey.type rule.hostType.name) ++ [.capability .pathLike,
        .type HostType.pathLike.name, .type HostType.fileName] := rfl
  have hlookup : standard.entries.lookup (.type name) = none := by
    rw [List.lookup_eq_none_iff]
    intro entry hentry
    have hkey := List.mem_map_of_mem (f := (·.1)) hentry
    rw [hkeys] at hkey
    rw [bne_iff_ne]
    intro hname
    rw [← hname] at hkey
    refine h ?_
    simpa [standardNames] using hkey
  rw [get?, hlookup]
  rfl

/-- A file type with an extension is no name by itself, and leads to the transformer of files by its
origin. -/
theorem resolve_fileOf (extension : String) :
    standard.resolve (.fileOf extension) = Files.transformer := by
  unfold HostType.fileOf
  split
  · exact resolve_of_name rfl
  · -- the bracket is in the fifth place, where no registered name has one
    have hbracket : ∀ name ∈ standardNames, name.toList[4]? ≠ some '[' := by decide
    have hname : (HostType.generic HostType.fileName [extension]).name ∉ standardNames := by
      intro hmem
      refine hbracket _ hmem ?_
      simp [HostType.generic, HostType.fileName]
    have hnone := get?_standard_of_not_mem hname
    have horigin : standard.get? (.type HostType.fileName) = some Files.transformer := rfl
    unfold resolve TypeKey.candidates TypeKey.ofHostType
    rw [List.findSome?_cons, hnone]
    simp [HostType.generic, horigin]

theorem literalType_fileOf (extension : String) :
    standard.literalType (.fileOf extension) = .ok (.ofFormat extension) := by
  unfold literalType
  rw [resolve_fileOf]
  unfold HostType.fileOf
  split
  · rename_i hempty
    rw [String.isEmpty_iff] at hempty
    subst hempty
    rfl
  · rfl

theorem literalType_rule {rule : PrimitiveRule} (h : rule ∈ PrimitiveRule.defaults) :
    standard.literalType rule.hostType = .ok (.ofSimple rule.simple) := by
  unfold literalType
  rw [resolve_rule h]
  rfl

/-! ## Both directions -/

/-- Looking types up and looking them up in reverse agree. -/
structure Reverses (r : Registry) : Prop where
  /-- Reverse lookup answers for the types that a host type stands for. -/
  answers : ∀ type, (∃ host, r.hostTypeOf type = .ok host) ↔ type.IsHosted
  /-- No two transformers claim a type. -/
  unambiguous : ∀ type, (r.claims type).length ≤ 1
  /-- Where it does not answer, no transformer claims the type. -/
  refuses : ∀ type f, r.hostTypeOf type = .error f →
    f = .because .lookup ("no transformer can reverse " ++ type.describe)
  /-- An answer leads back to a type of the same kind. -/
  kind : ∀ type host, r.hostTypeOf type = .ok host →
    ∃ back, r.literalType host = .ok back ∧ back.SameKind type
  /-- The host types of scalars come back. -/
  scalar : ∀ rule ∈ PrimitiveRule.defaults, ∃ type, r.literalType rule.hostType = .ok type ∧
    r.hostTypeOf type = .ok rule.hostType
  /-- File types come back, unless their extension is the format of sealed values. -/
  file : ∀ extension, extension ≠ Sealing.format →
    ∃ type, r.literalType (.fileOf extension) = .ok type ∧
      r.hostTypeOf type = .ok (.fileOf extension)
  /-- A type that no key covers comes back as the one of all sealed values. -/
  uncovered : ∀ t, r.resolve t = Registry.fallback → ∃ type, r.literalType t = .ok type ∧
    r.hostTypeOf type = .ok .sealed

theorem isHosted_iff : type.IsHosted ↔ ∃ host, hostOf? type = some host := by
  cases type with
  | simple type m => cases type <;> simp [LiteralType.IsHosted, hostOf?, PrimitiveRule.defaults]
  | blob type m => simp [LiteralType.IsHosted, hostOf?]
  | collection item m => simp [LiteralType.IsHosted, hostOf?]
  | map value m => simp [LiteralType.IsHosted, hostOf?]

theorem sameKind_of_hostOf? (h : hostOf? type = some host) :
    ∃ back, standard.literalType host = .ok back ∧ back.SameKind type := by
  cases type with
  | simple type m =>
    obtain ⟨rule, hfound, rfl⟩ := Option.map_eq_some_iff.1 h
    have hsimple : rule.simple = type := by simpa using List.find?_some hfound
    refine ⟨_, literalType_rule (List.mem_of_find?_eq_some hfound), ?_⟩
    rw [hsimple]
    rfl
  | blob type m =>
    obtain ⟨format, dimensionality⟩ := type
    simp only [hostOf?, Option.ite_none_right_eq_some, Option.some.injEq] at h
    obtain ⟨rfl, rfl⟩ := h
    split
    · rename_i hformat
      subst hformat
      exact ⟨_, rfl, rfl⟩
    · exact ⟨_, literalType_fileOf format, rfl⟩
  | collection item m => cases h
  | map value m => cases h

/-- **The registry of a fresh session** answers in reverse for every type that a host type stands
for, by one transformer, and what it answers leads back. -/
theorem standard_reverses : standard.Reverses where
  answers type := by
    simp only [hostTypeOf_standard_eq_ok]
    exact isHosted_iff.symm
  unambiguous := length_claims_standard
  refuses type f h := by
    have hlength := length_claims_standard type
    unfold hostTypeOf at h
    split at h
    · cases h
      rfl
    · cases h
    · rename_i hnil hone
      match hclaims : standard.claims type with
      | [] => exact absurd hclaims hnil
      | [claim] => exact absurd hclaims (hone claim.1 claim.2)
      | _ :: _ :: _ =>
        rw [hclaims, List.length_cons, List.length_cons] at hlength
        omega
  kind type host h := sameKind_of_hostOf? (hostTypeOf_standard_eq_ok.1 h)
  scalar rule h := by
    refine ⟨_, literalType_rule h, hostTypeOf_standard_eq_ok.2 ?_⟩
    simp only [PrimitiveRule.defaults, List.mem_cons, List.not_mem_nil, or_false] at h
    rcases h with rfl | rfl | rfl | rfl | rfl | rfl | rfl <;> rfl
  file extension h := by
    refine ⟨_, literalType_fileOf extension, hostTypeOf_standard_eq_ok.2 ?_⟩
    simp [hostOf?, LiteralType.ofFormat, BlobType.single, h]
  uncovered t h := by
    refine ⟨Sealing.literalType t, ?_, hostTypeOf_standard_eq_ok.2 rfl⟩
    unfold literalType
    rw [h]
    rfl

end Registry

end Workflow
