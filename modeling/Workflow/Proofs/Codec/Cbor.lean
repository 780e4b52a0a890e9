import Mathlib.Tactic.SplitIfs
import Workflow.Cbor.Reader
import Workflow.Cbor.Writer
import Workflow.Proofs.Codec.Reading
import Workflow.Proofs.Text.Utf8

/-!
# CBOR values are read back

A head holds its argument in the shortest of five classes, and a floating number in the shortest of
three formats; the reader takes any of them. So heads are read back first, then values by induction.

* `Head.reads_write`: every head whose argument fits is read back.
* `Plain`: values without tags, nested no deeper than a bound, with lengths of 64 bits.
* `read?_write`: such a value is read back from its bytes, floating numbers with all their bits and
  maps with all their entries in order.
-/

namespace Workflow.Cbor

open ByteReader

namespace Head

variable {kind info n width : Nat}

/-! ## Arguments -/

theorem toNat_lead (hkind : kind < 8) (hinfo : info < 32) :
    (lead kind info).toNat = kind * 32 + info := by
  rw [lead, Utf8.toNat_ofNat (by omega)]

/-- An argument below 24 stands in the first byte. -/
theorem reads_lead (hkind : kind < 8) (hinfo : info < 24) :
    Head.read.Reads [lead kind info] (ofArgument kind info info) := by
  intro rest
  have hkind' : (kind * 32 + info) / 32 = kind := by omega
  have hinfo' : (kind * 32 + info) % 32 = info := by omega
  simp only [List.cons_append, List.nil_append, read, toNat_lead hkind (by omega : info < 32), hkind',
    hinfo', if_pos hinfo]

/-- Any other argument stands behind the first byte. -/
theorem reads_wide (hkind : kind < 8) (hinfo : 24 ≤ info ∧ info < 28) (hwidth : width? info = some width)
    (hn : n < BigEndian.size width) :
    Head.read.Reads (lead kind info :: BigEndian.bytes width n) (ofArgument kind info n) := by
  intro rest
  have hkind' : (kind * 32 + info) / 32 = kind := by omega
  have hinfo' : (kind * 32 + info) % 32 = info := by omega
  have hargument := BigEndian.reads_read hn rest
  have hsmall : ¬ info < 24 := by omega
  have hopen : ¬ info = 31 := by omega
  simp only [List.cons_append, read, toNat_lead hkind (by omega : info < 32), hkind', hinfo',
    if_neg hsmall, if_neg hopen, hwidth, hargument, Option.map_some]

/-- A kind without an argument. -/
theorem reads_open {head : Head} (hkind : kind < 8) (h : ofOpen? kind = some head) :
    Head.read.Reads [lead kind 31] head := by
  intro rest
  have hkind' : (kind * 32 + 31) / 32 = kind := by omega
  have hinfo' : (kind * 32 + 31) % 32 = 31 := by omega
  simp only [List.cons_append, List.nil_append, read, toNat_lead hkind (by decide : 31 < 32), hkind',
    hinfo', Nat.reduceLT, if_false, if_true, h, Option.map_some]

/-- **An argument** is read back from each of its five classes, by a kind that does not look at the
class. -/
theorem reads_argument {head : Head} (hkind : kind < 8) (hn : n < UInt64.size)
    (h : ∀ info, ofArgument kind info n = head) : Head.read.Reads (writeArgument kind n) head := by
  unfold writeArgument
  split_ifs with h₅ h₈ h₁₆ h₃₂
  · exact h n ▸ reads_lead hkind h₅
  · exact h 24 ▸ reads_wide hkind (by decide) rfl h₈
  · exact h 25 ▸ reads_wide hkind (by decide) rfl h₁₆
  · exact h 26 ▸ reads_wide hkind (by decide) rfl h₃₂
  · exact h 27 ▸ reads_wide hkind (by decide) rfl hn

/-- **A floating number** is read back with all its bits from the shortest format that holds it. -/
theorem reads_float (x : Binary64) : Head.read.Reads (writeFloat x) (.float x) := by
  unfold writeFloat
  split
  · rename_i bits hhalf
    obtain ⟨hbits, hwiden⟩ := FloatFormat.widen_of_narrow? hhalf
    have hhead : ofArgument 7 25 bits = .float x := congrArg Head.float hwiden
    exact hhead ▸ reads_wide (by decide) (by decide) rfl hbits
  · rename_i bits _ hsingle
    obtain ⟨hbits, hwiden⟩ := FloatFormat.widen_of_narrow? hsingle
    have hhead : ofArgument 7 26 bits = .float x := congrArg Head.float hwiden
    exact hhead ▸ reads_wide (by decide) (by decide) rfl hbits
  · have hhead : ofArgument 7 27 x.bits.toNat = .float x :=
      congrArg (fun bits => Head.float ⟨bits⟩) UInt64.ofNat_toNat
    exact hhead ▸ reads_wide (by decide) (by decide) rfl x.bits.toNat_lt

theorem reads_simple (hn : n < UInt8.size) : Head.read.Reads (writeArgument 7 n) (.simple n) := by
  unfold writeArgument
  split_ifs with h₅
  · have hhead : ofArgument 7 n n = .simple n := by
      rw [ofArgument, if_neg (by omega), if_neg (by omega), if_neg (by omega)]
      all_goals omega
    exact hhead ▸ reads_lead (by decide) h₅
  · exact reads_wide (by decide) (by decide) rfl hn

/-- The argument of a head fits where it is written: a length into 64 bits, a simple value into one
byte. -/
def Fits : Head → Prop
  | .bytes (some n) | .text (some n) | .array (some n) | .map (some n) => n < UInt64.size
  | .simple n => n < UInt8.size
  | _ => True

/-- **A head is read back.** -/
theorem reads_write {head : Head} (h : head.Fits) : Head.read.Reads head.write head := by
  cases head with
  | unsigned n =>
    exact reads_argument (by decide) n.toNat_lt fun _ => congrArg Head.unsigned UInt64.ofNat_toNat
  | negative n =>
    exact reads_argument (by decide) n.toNat_lt fun _ => congrArg Head.negative UInt64.ofNat_toNat
  | bytes length =>
    cases length with
    | none => exact reads_open (by decide) rfl
    | some n => exact reads_argument (by decide) h fun _ => rfl
  | text length =>
    cases length with
    | none => exact reads_open (by decide) rfl
    | some n => exact reads_argument (by decide) h fun _ => rfl
  | array length =>
    cases length with
    | none => exact reads_open (by decide) rfl
    | some n => exact reads_argument (by decide) h fun _ => rfl
  | map length =>
    cases length with
    | none => exact reads_open (by decide) rfl
    | some n => exact reads_argument (by decide) h fun _ => rfl
  | tag number =>
    exact reads_argument (by decide) number.toNat_lt fun _ => congrArg Head.tag UInt64.ofNat_toNat
  | simple n => exact reads_simple h
  | float x => exact reads_float x
  | stop => exact reads_open (by decide) rfl

end Head

/-! ## Items -/

section

variable {inner : Option (ByteReader Cbor)} {reader : ByteReader Cbor} {bytes : Bytes}

theorem reads_unsigned (n : UInt64) :
    (readWith inner).Reads (Head.unsigned n).write (.unsigned n) := by
  intro rest
  have hhead := @Head.reads_write (.unsigned n) trivial rest
  simp only [readWith, hhead, Option.bind_eq_bind, Option.bind_some, Option.pure_def]

theorem reads_negative (n : UInt64) :
    (readWith inner).Reads (Head.negative n).write (.negative n) := by
  intro rest
  have hhead := @Head.reads_write (.negative n) trivial rest
  simp only [readWith, hhead, Option.bind_eq_bind, Option.bind_some, Option.pure_def]

theorem reads_float (x : Binary64) : (readWith inner).Reads (Head.float x).write (.float x) := by
  intro rest
  have hhead := @Head.reads_write (.float x) trivial rest
  simp only [readWith, hhead, Option.bind_eq_bind, Option.bind_some, Option.pure_def]

/-- A truth value or null. -/
theorem reads_simple {n : Nat} {value : Cbor} (h : ofSimple? n = some value) (hn : n < UInt8.size) :
    (readWith inner).Reads (Head.simple n).write value := by
  intro rest
  have hhead := @Head.reads_write (.simple n) hn rest
  simp only [readWith, hhead, h, Option.bind_eq_bind, Option.bind_some, Option.pure_def]

theorem reads_bytes {content : Bytes} (h : content.length < UInt64.size) :
    (readWith inner).Reads ((Head.bytes (some content.length)).write ++ content)
      (.bytes content) := by
  intro rest
  have hhead := @Head.reads_write (.bytes (some content.length)) h (content ++ rest)
  have hcontent := reads_take content rest
  simp only [readWith, readString, List.append_assoc, hhead, hcontent, Option.map_some,
    Option.bind_eq_bind, Option.bind_some, Option.pure_def, List.flatten_cons, List.flatten_nil,
    List.append_nil]

theorem reads_text {content : String} (h : (Utf8.encode content).length < UInt64.size) :
    (readWith inner).Reads
      ((Head.text (some (Utf8.encode content).length)).write ++ Utf8.encode content)
      (.text content) := by
  intro rest
  have hhead := @Head.reads_write (.text (some (Utf8.encode content).length)) h
    (Utf8.encode content ++ rest)
  have hcontent := reads_take (Utf8.encode content) rest
  have hchars : Utf8.decodeChars? (Utf8.encode content) = some content.toList :=
    Utf8.decodeChars?_encodeChars content.toList
  simp only [readWith, readString, List.append_assoc, hhead, hcontent, hchars, Option.map_some,
    List.mapM_cons, List.mapM_nil, Option.bind_eq_bind, Option.bind_some, Option.pure_def,
    List.flatten_cons, List.flatten_nil, List.append_nil, String.ofList_toList]

theorem reads_array {items : List Cbor} (hlength : items.length < UInt64.size)
    (h : (many reader items.length).Reads bytes items) :
    (readWith (some reader)).Reads ((Head.array (some items.length)).write ++ bytes)
      (.array items) := by
  intro rest
  have hhead := @Head.reads_write (.array (some items.length)) hlength (bytes ++ rest)
  have hitems := h rest
  simp only [readWith, readAll, List.append_assoc, hhead, hitems, Option.bind_eq_bind,
    Option.bind_some, Option.pure_def]

theorem reads_map {entries : List (Cbor × Cbor)} (hlength : entries.length < UInt64.size)
    (h : (many (pair reader) entries.length).Reads bytes entries) :
    (readWith (some reader)).Reads ((Head.map (some entries.length)).write ++ bytes)
      (.map entries) := by
  intro rest
  have hhead := @Head.reads_write (.map (some entries.length)) hlength (bytes ++ rest)
  have hentries := h rest
  simp only [readWith, readAll, List.append_assoc, hhead, hentries, Option.bind_eq_bind,
    Option.bind_some, Option.pure_def]

end

/-! ## Values -/

theorem writeItems_eq_flatMap (items : List Cbor) : writeItems items = items.flatMap write := by
  induction items with
  | nil => rfl
  | cons item items ih => rw [writeItems, List.flatMap_cons, ih]

theorem writeEntries_eq_flatMap (entries : List (Cbor × Cbor)) :
    writeEntries entries = entries.flatMap fun entry => write entry.1 ++ write entry.2 := by
  induction entries with
  | nil => rfl
  | cons entry entries ih =>
    obtain ⟨key, value⟩ := entry
    rw [writeEntries, List.flatMap_cons, ih]

/-- A value without tags, with lengths of 64 bits and at most so many arrays and maps around any of
its parts. -/
inductive Plain : Nat → Cbor → Prop where
  | unsigned {depth : Nat} (n : UInt64) : Plain depth (.unsigned n)
  | negative {depth : Nat} (n : UInt64) : Plain depth (.negative n)
  | bool {depth : Nat} (value : Bool) : Plain depth (.bool value)
  | null {depth : Nat} : Plain depth .null
  | float {depth : Nat} (x : Binary64) : Plain depth (.float x)
  | bytes {depth : Nat} {content : Bytes} (hlength : content.length < UInt64.size) :
      Plain depth (.bytes content)
  | text {depth : Nat} {content : String} (hlength : (Utf8.encode content).length < UInt64.size) :
      Plain depth (.text content)
  | array {depth : Nat} {items : List Cbor} (hlength : items.length < UInt64.size)
      (hitems : ∀ item ∈ items, Plain depth item) : Plain (depth + 1) (.array items)
  | map {depth : Nat} {entries : List (Cbor × Cbor)} (hlength : entries.length < UInt64.size)
      (hkeys : ∀ entry ∈ entries, Plain depth entry.1)
      (hvalues : ∀ entry ∈ entries, Plain depth entry.2) : Plain (depth + 1) (.map entries)

/-- What is read whatever may be nested is read at every depth. -/
theorem reads_leaf {depth : Nat} {bytes : Bytes} {value : Cbor}
    (h : ∀ inner, (readWith inner).Reads bytes value) : (readNested depth).Reads bytes value := by
  cases depth with
  | zero => exact h none
  | succ depth => exact h (some (readNested depth))

/-- **A value is read back** from its bytes, whatever stands behind them. -/
theorem Plain.reads {depth : Nat} {value : Cbor} (h : Plain depth value) :
    (readNested depth).Reads value.write value := by
  induction h with
  | unsigned n => exact reads_leaf fun _ => reads_unsigned n
  | negative n => exact reads_leaf fun _ => reads_negative n
  | bool value =>
    cases value with
    | false => exact reads_leaf fun _ => reads_simple rfl (by decide)
    | true => exact reads_leaf fun _ => reads_simple rfl (by decide)
  | null => exact reads_leaf fun _ => reads_simple rfl (by decide)
  | float x => exact reads_leaf fun _ => reads_float x
  | bytes hlength => exact reads_leaf fun _ => reads_bytes hlength
  | text hlength => exact reads_leaf fun _ => reads_text hlength
  | array hlength hitems ih =>
    rw [write, writeItems_eq_flatMap]
    exact reads_array hlength (.many ih)
  | map hlength hkeys hvalues ihkeys ihvalues =>
    rw [write, writeEntries_eq_flatMap]
    exact reads_map hlength (.entries ihkeys ihvalues)

/-- **The value at the start of an input** is the one that was written there. -/
theorem read?_write {value : Cbor} (h : Plain maxDepth value) (rest : Bytes) :
    read? (value.write ++ rest) = some value := by
  rw [read?, h.reads, Option.map_some]

end Workflow.Cbor
