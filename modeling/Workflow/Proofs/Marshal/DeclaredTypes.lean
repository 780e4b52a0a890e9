import Workflow.Marshal.Registry
import Workflow.Proofs.Marshal.Reemission
import Workflow.Proofs.Marshal.Sealing

/-!
# Literals have the type that was declared

A transformer tells the literal type of a host type and writes the literals of its values. The two
are separate functions, and the registry compares what they give.

* `Transformer.KeepsType`: every literal that is written has the type that was told, for whatever
  host type the transformer was found.
* `Files.keepsType`, `PrimitiveRule.keepsType`, `Sealing.keepsType`: the transformers of this
  library keep theirs.
* `Registry.KeepsTypes`: a registry of such transformers. `register` adds one more, and all that
  `resolve` finds is in it (`resolve_cases`).
* `standard_keeps_types`: so in a fresh session the comparison never fails.
-/

namespace Workflow

open Calls

variable {ctx : Context} {value : HostValue} {t : HostType} {type : LiteralType} {literal : Literal}
  {s s' : Session}

/-- A blob has its own type, whatever its annotations and those of the type. -/
theorem LiteralType.accepts_ofBlob (blobType : BlobType) (uri : String)
    (typeNotes notes : Option Dict) : (LiteralType.blob blobType typeNotes).accepts
      ((Literal.ofBlob blobType uri).withMetadata notes) = true := by
  show blobType.accepts blobType = true
  simp [BlobType.accepts]

namespace Transformer

/-- Whatever literal comes of a host type has the type that is told for it. -/
def KeepsType (transformer : Transformer) : Prop :=
  ∀ (t : HostType) (type : LiteralType), transformer.literalType t = .ok type →
    ∀ (ctx : Context) (value : HostValue) (s : Session) (literal : Literal) (s' : Session),
      outcome (transformer.toLiteral ctx value t type) s = (.ok literal, s') →
        type.accepts literal = true

/-- What a transformer writes under the literal type that it tells, without a comparison. -/
def write (transformer : Transformer) (ctx : Context) (value : HostValue) (t : HostType) :
    Marshal Literal := do
  let type ← Marshal.ofExcept (transformer.literalType t)
  transformer.toLiteral ctx value t type

end Transformer

/-! ## The transformers of the library -/

namespace Files

variable {declared : Declared}

/-- Uploaded or not, a file on its way goes into a blob of one object in the declared format. -/
theorem outgoing_eq_blobOf {step : Marshal Bool} {path : String} {destination : Option String}
    {metadata : Option Dict} (h : outcome (do
      let uploads ← step
      Outgoing.toLiteral ⟨path, destination, metadata, uploads⟩ declared) s = (.ok literal, s')) :
    ∃ uri metadata, literal = blobOf declared uri metadata := by
  obtain ⟨uploads, s₁, -, hwritten⟩ := bind_eq_ok.1 h
  cases uploads with
  | false =>
    cases hwritten
    exact ⟨path, metadata, rfl⟩
  | true =>
    obtain ⟨uri, s₂, -, hend⟩ := bind_eq_ok.1 hwritten
    cases hend
    exact ⟨uri, metadata, rfl⟩

/-- So does every value that is a file at all. -/
theorem toLiteral_eq_blobOf (h : outcome (toLiteral ctx value t) s = (.ok literal, s')) :
    ∃ declared uri metadata, Declared.ofHostType t = .ok declared ∧
      literal = blobOf declared uri metadata := by
  unfold toLiteral at h
  by_cases hnone : value.isNone = true
  · rw [if_pos hnone] at h
    cases h
  rw [if_neg hnone] at h
  obtain ⟨declared, s₁, hcall, hrest⟩ := bind_eq_ok.1 h
  obtain ⟨hdeclared, rfl⟩ := Marshal.ofExcept_eq_ok.1 hcall
  refine ⟨declared, ?_⟩
  suffices hblob : ∃ uri metadata, literal = blobOf declared uri metadata by
    obtain ⟨uri, metadata, hblob⟩ := hblob
    exact ⟨uri, metadata, hdeclared, hblob⟩
  cases value with
  | file f =>
    simp only at hrest
    cases hsource : f.remoteSource with
    | some uri =>
      rw [hsource] at hrest
      cases hrest
      exact ⟨uri, f.metadata, rfl⟩
    | none =>
      rw [hsource] at hrest
      exact outgoing_eq_blobOf hrest
  | str text => exact outgoing_eq_blobOf hrest
  | path p => exact outgoing_eq_blobOf hrest
  | _ => cases hrest

/-- **Files** are written in the format that is told. -/
theorem keepsType : transformer.KeepsType := by
  intro t type htype ctx value s literal s' h
  obtain ⟨declared, uri, metadata, hdeclared, rfl⟩ := toLiteral_eq_blobOf h
  replace htype : literalType t = .ok type := htype
  unfold literalType at htype
  rw [hdeclared] at htype
  cases htype
  exact LiteralType.accepts_ofBlob _ uri none metadata

end Files

/-- **Scalars** are written as what their rule says. -/
theorem PrimitiveRule.keepsType (rule : PrimitiveRule) : rule.transformer.KeepsType := by
  intro t type htype ctx value s literal s' h
  cases htype
  obtain ⟨hwrite, -⟩ := Marshal.ofExcept_eq_ok.1 h
  obtain ⟨simple, hostType⟩ := rule
  -- a rule writes one kind of value alone, and refuses the others
  cases simple <;> cases value <;> cases hwrite <;> rfl

/-- **Sealed values** are written in the format of their own. -/
theorem Sealing.keepsType : Sealing.transformer.KeepsType := by
  intro t type htype ctx value s literal s' h
  cases htype
  obtain ⟨content, uri, -, rfl, -⟩ := Sealing.toLiteral_eq_ok h
  exact LiteralType.accepts_ofBlob _ uri _ none

namespace Registry

variable {r : Registry}

/-! ## Registries of such transformers -/

/-- All transformers that were registered keep their types. -/
def KeepsTypes (r : Registry) : Prop := ∀ transformer ∈ r.transformers, transformer.KeepsType

theorem KeepsTypes.empty : empty.KeepsTypes := by
  intro transformer h
  cases h

theorem KeepsTypes.register {transformer : Transformer} (hr : r.KeepsTypes)
    (h : transformer.KeepsType) (keys : List TypeKey) :
    (r.register transformer keys).KeepsTypes := by
  intro other hother
  have hmem : other ∈ r.transformers ++ [transformer] := hother
  rw [List.mem_append, List.mem_singleton] at hmem
  rcases hmem with hold | rfl
  · exact hr other hold
  · exact h

/-- What is under a key was registered, unless it is the transformer of types without a key. -/
theorem get?_cases {key : TypeKey} {transformer : Transformer} (h : r.get? key = some transformer) :
    transformer = fallback ∨ transformer ∈ r.transformers := by
  obtain ⟨number, -, hnumber⟩ := Option.bind_eq_some_iff.1 h
  cases number with
  | zero =>
    cases hnumber
    exact .inl rfl
  | succ number => exact .inr (List.mem_of_getElem? hnumber)

/-- So is what a host type leads to. -/
theorem resolve_cases (r : Registry) (t : HostType) :
    r.resolve t = fallback ∨ r.resolve t ∈ r.transformers := by
  unfold resolve
  cases hfound : (TypeKey.candidates t).findSome? r.get? with
  | none => exact .inl rfl
  | some transformer =>
    obtain ⟨key, -, hkey⟩ := List.exists_of_findSome?_eq_some hfound
    exact get?_cases hkey

theorem KeepsTypes.resolve (hr : r.KeepsTypes) (t : HostType) : (r.resolve t).KeepsType := by
  rcases resolve_cases r t with hfallback | hmem
  · rw [hfallback]
    exact Sealing.keepsType
  · exact hr _ hmem

/-- The registry of a fresh session holds such transformers alone. -/
theorem keepsTypes_standard : standard.KeepsTypes := by
  have hfiles := KeepsTypes.empty.register Files.keepsType
    [.ofHostType .file, .ofHostType .pathLike, .capability .pathLike]
  unfold standard
  exact List.foldlRecOn _ _ hfiles fun r hr rule _ => hr.register rule.keepsType _

/-- **Where the type is kept**, the comparison changes nothing. -/
theorem outcome_toLiteral_of_keepsType (h : (r.resolve t).KeepsType) (s : Session) :
    outcome (r.toLiteral ctx value t) s = outcome ((r.resolve t).write ctx value t) s := by
  unfold toLiteral Transformer.write
  simp only
  cases htype : (r.resolve t).literalType t with
  | error e => rfl
  | ok type =>
    simp only [Marshal.ofExcept, outcome_pure_bind]
    rw [outcome_bind]
    rcases hend : outcome ((r.resolve t).toLiteral ctx value t type) s with ⟨e | literal, s'⟩
    · rfl
    · have haccepted := h t type htype ctx value s literal s' hend
      simp only [haccepted, if_true, outcome_pure]

/-- **The registry of a fresh session** never finds that a literal contradicts the type that was
told for it. Whatever host type, value, context and session are given, a literal that the
transformer of the host type writes has the type that the same transformer tells, and so the
registry ends as that transformer does, in the same session, failed or not. -/
theorem standard_keeps_types (ctx : Context) (value : HostValue) (t : HostType) (s : Session) :
    (∀ type literal s', (standard.resolve t).literalType t = .ok type →
      outcome ((standard.resolve t).toLiteral ctx value t type) s = (.ok literal, s') →
        type.accepts literal = true) ∧
    outcome (standard.toLiteral ctx value t) s =
      outcome ((standard.resolve t).write ctx value t) s := by
  have hkeeps := keepsTypes_standard.resolve t
  refine ⟨?_, outcome_toLiteral_of_keepsType hkeeps s⟩
  intro type literal s' htype h
  exact hkeeps t type htype ctx value s literal s' h

/-- A type that leads to the truth values by its origin alone, and one that leads to the files by
what it can stand for. -/
theorem standard_keeps_types_borrowed :
    (∃ literal, (LiteralType.ofSimple .boolean).accepts literal = true ∧
      outcome (standard.toLiteral {} (.bool true) (.generic "bool" ["x"])) (Files.oneFile "a.txt") =
        (.ok literal, Files.oneFile "a.txt")) ∧
    ∃ literal, (LiteralType.ofFormat "").accepts literal = true ∧
      outcome (standard.toLiteral {} (.str "/in/b.txt") ((HostType.ofName "Handle").withCapability
        .pathLike)) (Files.oneFile "a.txt") = (.ok literal, Files.oneFile "a.txt") := by
  constructor
  · obtain ⟨haccepts, hsame⟩ :=
      standard_keeps_types {} (.bool true) (.generic "bool" ["x"]) (Files.oneFile "a.txt")
    exact ⟨_, haccepts _ _ _ rfl rfl, hsame⟩
  · obtain ⟨haccepts, hsame⟩ := standard_keeps_types {} (.str "/in/b.txt")
      ((HostType.ofName "Handle").withCapability .pathLike) (Files.oneFile "a.txt")
    exact ⟨_, haccepts _ _ _ rfl rfl, hsame⟩

end Registry

end Workflow
