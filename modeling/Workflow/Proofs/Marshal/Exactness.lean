import Mathlib.Data.List.Nodup
import Workflow.Marshal.Primitives
import Workflow.Proofs.Marshal.Session

/-!
# Scalars come back exactly

What a rule writes, what it reads and what its literal type accepts are given apart from each other.
All three are one relation between host values, scalars and simple types.

* `HostValue.Stands`: the relation. A scalar belongs to one type in it (`Stands.type_unique`).
* `write_eq_ok`, `read_eq_ok`, `accepts_iff_stands`: each of the three by it.
* `PrimitiveRule.Exact`: a rule writes the values of its kind, reads what its type accepts, and loses
  nothing but annotations.
* `defaults_exact`: the rules of a fresh registry are exact, and no two of them share a literal.
-/

namespace Workflow

open Calls

namespace HostValue

/-- The simple type of a value. Paths, files and sealed values have none. -/
def simple? : HostValue → Option SimpleType
  | .none => some .none
  | .int _ => some .integer
  | .float _ => some .float
  | .bool _ => some .boolean
  | .str _ => some .string
  | .datetime _ => some .datetime
  | .duration _ => some .duration
  | .path _ => Option.none
  | .file _ => Option.none
  | .sealed _ => Option.none

/-- A value and a scalar that stand for each other, with their type. -/
inductive Stands : HostValue → Scalar → SimpleType → Prop where
  | none : Stands .none .none .none
  | int (v : Int64) : Stands (.int v) (.primitive (.integer v)) .integer
  | float (v : Binary64) : Stands (.float v) (.primitive (.float v)) .float
  | bool (v : Bool) : Stands (.bool v) (.primitive (.boolean v)) .boolean
  | str (v : String) : Stands (.str v) (.primitive (.text v)) .string
  | datetime (v : Instant) : Stands (.datetime v) (.primitive (.datetime v)) .datetime
  | duration (v : Duration) : Stands (.duration v) (.primitive (.duration v)) .duration

namespace Stands

variable {v v' : HostValue} {x : Scalar} {type type' : SimpleType}

theorem ofScalar? (h : Stands v x type) : SimpleType.ofScalar? x = some type := by
  cases h <;> rfl

/-- A scalar stands for values of one type. -/
theorem type_unique (h : Stands v x type) (h' : Stands v' x type') : type = type' :=
  Option.some.inj (h.ofScalar?.symm.trans h'.ofScalar?)

end Stands

theorem simple?_eq_some {v : HostValue} {type : SimpleType} :
    v.simple? = some type ↔ ∃ x, v.Stands x type := by
  constructor
  · intro h
    cases v <;> cases h <;> exact ⟨_, by constructor⟩
  · rintro ⟨x, h⟩
    cases h <;> rfl

/-- Every scalar stands for a value, but for documents, bytes and blobs. -/
theorem exists_stands {x : Scalar} {type : SimpleType} (hstruct : type ≠ .struct)
    (hbinary : type ≠ .binary) (h : SimpleType.ofScalar? x = some type) :
    ∃ v : HostValue, v.Stands x type := by
  cases x with
  | primitive p => cases p <;> cases h <;> exact ⟨_, by constructor⟩
  | none =>
    cases h
    exact ⟨.none, .none⟩
  | blob b => cases h
  | binary b =>
    cases h
    exact absurd rfl hbinary
  | generic o =>
    cases h
    exact absurd rfl hstruct

end HostValue

namespace PrimitiveRule

variable {rule rule' : PrimitiveRule} {v v' : HostValue} {l : Literal}

/-! ## Three readings of one relation -/

/-- **What a rule writes** is the scalar of the value, without annotations. -/
theorem write_eq_ok : rule.write v = .ok l ↔ ∃ x, v.Stands x rule.simple ∧ l = .scalar x none := by
  obtain ⟨type, host⟩ := rule
  constructor
  · intro h
    -- for each type one kind of value is written, all others fail
    cases type <;> cases v <;> cases h <;> exact ⟨_, by constructor, rfl⟩
  · rintro ⟨x, hx, rfl⟩
    cases hx <;> rfl

/-- **What a rule reads** is the value of the scalar, whatever its annotations. -/
theorem read_eq_ok : rule.read l = .ok v ↔ ∃ x m, v.Stands x rule.simple ∧ l = .scalar x m := by
  obtain ⟨type, host⟩ := rule
  constructor
  · intro h
    cases l with
    | scalar x m =>
      refine ⟨x, m, ?_, rfl⟩
      cases x with
      | primitive p => cases type <;> cases p <;> cases h <;> constructor
      | none =>
        cases type <;> cases h
        exact .none
      | blob b => cases type <;> cases h
      | binary b => cases type <;> cases h
      | generic o => cases type <;> cases h
    | collection items m => cases type <;> cases h
    | map entries m => cases type <;> cases h
  · rintro ⟨x, m, hx, rfl⟩
    cases hx <;> rfl

/-- **What the literal type of a rule accepts** are the scalars that stand for a value. -/
theorem accepts_iff_stands (hstruct : rule.simple ≠ .struct) (hbinary : rule.simple ≠ .binary) :
    (LiteralType.ofSimple rule.simple).accepts l = true ↔
      ∃ (v : HostValue) (x : Scalar) (m : Option Dict),
        v.Stands x rule.simple ∧ l = .scalar x m := by
  constructor
  · intro h
    cases l with
    | scalar x m =>
      -- documents and bytes have simple types too, but no host values
      obtain ⟨v, hx⟩ := HostValue.exists_stands hstruct hbinary (beq_iff_eq.1 h)
      exact ⟨v, x, m, hx, rfl⟩
    | collection items m => cases h
    | map entries m => cases h
  · rintro ⟨v, x, m, hx, rfl⟩
    exact beq_iff_eq.2 hx.ofScalar?

theorem kind_of_write_eq_error {f : Failure} (h : rule.write v = .error f) :
    f.kind = .typeMismatch := by
  unfold write at h
  split at h <;> cases h
  rfl

theorem kind_of_read_eq_error {f : Failure} (h : rule.read l = .error f) :
    f.kind = .typeMismatch := by
  unfold read at h
  split at h <;> cases h
  rfl

/-! ## The rules of a fresh registry -/

/-- What is expected of a rule whose literals hold all there is of its values. -/
structure Exact (rule : PrimitiveRule) : Prop where
  /-- All calls write alike, and leave the session as it is. -/
  calls : ∀ ctx v t expected s,
    outcome (rule.transformer.toLiteral ctx v t expected) s = (rule.write v, s)
  /-- All calls read alike, and leave the session as it is. -/
  callsBack : ∀ ctx l t s, outcome (rule.transformer.toHostValue ctx l t) s = (rule.read l, s)
  /-- The values of one kind are written. -/
  writes : ∀ v : HostValue, (∃ l, rule.write v = .ok l) ↔ v.simple? = some rule.simple
  /-- A value that was written is read again. -/
  readsBack : ∀ v l, rule.write v = .ok l → rule.read l = .ok v
  /-- The literals of the literal type are read. -/
  reads : ∀ l, (∃ v, rule.read l = .ok v) ↔
    ∃ type, (∀ t, rule.transformer.literalType t = .ok type) ∧ type.accepts l = true
  /-- A literal that was read is written again, but for its annotations. -/
  writesBack : ∀ l v, rule.read l = .ok v → rule.write v = .ok (l.withMetadata none)
  /-- Other values are mismatches. -/
  refuses : ∀ v f, rule.write v = .error f → f.kind = .typeMismatch
  /-- Other literals are mismatches. -/
  refusesBack : ∀ l f, rule.read l = .error f → f.kind = .typeMismatch

theorem simple_of_mem_defaults :
    ∀ rule ∈ defaults, rule.simple ≠ .struct ∧ rule.simple ≠ .binary := by decide

theorem nodup_simple_defaults : (defaults.map (·.simple)).Nodup := by decide

theorem exact_of_mem_defaults (h : rule ∈ defaults) : rule.Exact where
  calls _ _ _ _ _ := Marshal.outcome_ofExcept _ _
  callsBack _ _ _ _ := Marshal.outcome_ofExcept _ _
  writes v := by
    rw [HostValue.simple?_eq_some]
    constructor
    · rintro ⟨l, hl⟩
      obtain ⟨x, hx, -⟩ := write_eq_ok.1 hl
      exact ⟨x, hx⟩
    · rintro ⟨x, hx⟩
      exact ⟨_, write_eq_ok.2 ⟨x, hx, rfl⟩⟩
  readsBack v l hl := by
    obtain ⟨x, hx, rfl⟩ := write_eq_ok.1 hl
    exact read_eq_ok.2 ⟨x, none, hx, rfl⟩
  reads l := by
    obtain ⟨hstruct, hbinary⟩ := simple_of_mem_defaults rule h
    have haccepts : (LiteralType.ofSimple rule.simple).accepts l = true ↔
        ∃ v, rule.read l = .ok v := by
      rw [accepts_iff_stands hstruct hbinary]
      simp only [read_eq_ok]
    rw [← haccepts]
    constructor
    · intro hl
      exact ⟨_, fun _ => rfl, hl⟩
    · rintro ⟨type, htype, hl⟩
      cases htype default
      exact hl
  writesBack l v hv := by
    obtain ⟨x, m, hx, rfl⟩ := read_eq_ok.1 hv
    exact write_eq_ok.2 ⟨x, hx, rfl⟩
  refuses _ _ := kind_of_write_eq_error
  refusesBack _ _ := kind_of_read_eq_error

/-- What one rule writes is read by the rules of its own simple type alone. -/
theorem simple_eq_of_read_of_write (hwrite : rule.write v = .ok l) (hread : rule'.read l = .ok v') :
    rule.simple = rule'.simple := by
  obtain ⟨x, hx, rfl⟩ := write_eq_ok.1 hwrite
  obtain ⟨_, _, hx', ⟨⟩⟩ := read_eq_ok.1 hread
  exact hx.type_unique hx'

/-- **Scalars come back exactly.** Each rule of a fresh registry writes the values of its kind and
reads the literals of its literal type, one being the inverse of the other up to annotations. What is
written under one of their host types is read under no other. -/
theorem defaults_exact : (∀ rule ∈ defaults, rule.Exact) ∧
    ∀ rule ∈ defaults, ∀ rule' ∈ defaults, ∀ v l v',
      rule.write v = .ok l → rule'.read l = .ok v' → rule = rule' := by
  refine ⟨fun rule h => exact_of_mem_defaults h, ?_⟩
  intro rule h rule' h' v l v' hwrite hread
  exact List.inj_on_of_nodup_map nodup_simple_defaults h h' (simple_eq_of_read_of_write hwrite hread)

/-- A number with an annotation: it is read, written again without the annotation, and no floating
number. -/
theorem defaults_exact_integer :
    let rule : PrimitiveRule := ⟨.integer, .ofName "i64"⟩
    let float : PrimitiveRule := ⟨.float, .ofName "f64"⟩
    let five := Literal.ofPrimitive (.integer 5)
    rule ∈ defaults ∧ float ∈ defaults ∧ rule.write (.int 5) = .ok five ∧
      rule.read five = .ok (.int 5) ∧
      rule.write (.int 5) = .ok ((five.withMetadata (some .empty)).withMetadata none) ∧
      ∀ v, float.read five ≠ .ok v := by
  intro rule float five
  have hrule : rule ∈ defaults := by decide
  have hfloat : float ∈ defaults := by decide
  have hwrite : rule.write (.int 5) = .ok five := rfl
  have hread : rule.read (five.withMetadata (some .empty)) = .ok (.int 5) := rfl
  have hexact := defaults_exact.1 rule hrule
  refine ⟨hrule, hfloat, hwrite, hexact.readsBack _ _ hwrite, hexact.writesBack _ _ hread, ?_⟩
  intro v hv
  exact absurd (defaults_exact.2 rule hrule float hfloat _ _ _ hwrite hv) (by decide)

end PrimitiveRule

end Workflow
