import Mathlib.Tactic.SplitIfs
import Workflow.MessagePack.Reader
import Workflow.Proofs.Codec.Reading
import Workflow.Proofs.Text.Utf8

/-!
# MessagePack values are read back

The writer chooses the header of a text, a run of bytes, an array or a map by its length. The reader
dispatches on the first byte, so each class of headers has a marker of its own: `reads_marked` joins
the two, and the classes meet at `reads_str`, `reads_bin`, `reads_array` and `reads_map`.

* `Fits`: lengths fit into four bytes, and arrays, maps and extensions are nested no deeper than a
  bound. It is an induction over the values.
* `read?_write`: such a value is read back from its bytes.
-/

namespace Workflow.MessagePack

open ByteReader

/-! ## Markers -/

section

variable {inner : Option (ByteReader MessagePack)} {b : UInt8} {m : Marker} {bytes content : Bytes}
  {width : Nat} {value : MessagePack}

/-- What a marker announces is read behind its byte. -/
theorem reads_marked (hmarker : marker? b = some m) (h : (readMarked inner m).Reads bytes value) :
    (readWith inner).Reads (b :: bytes) value := by
  intro rest
  rw [List.cons_append, readWith, hmarker, Option.bind_some, h]

theorem reads_value : (readMarked inner (.value value)).Reads [] value := fun _ => rfl

theorem reads_number {make : Nat → MessagePack} {n : Nat} (h : n < BigEndian.size width) :
    (readMarked inner (.number width make)).Reads (BigEndian.bytes width n) (make n) := by
  intro rest
  have hnumber := BigEndian.reads_read h rest
  simp only [readMarked, hnumber, Option.bind_eq_bind, Option.bind_some, Option.pure_def]

theorem reads_fixedRun {make : Bytes → MessagePack} :
    (readMarked inner (.fixedRun content.length make)).Reads content (make content) := by
  intro rest
  have hcontent := reads_take content rest
  simp only [readMarked, hcontent, Option.bind_eq_bind, Option.bind_some, Option.pure_def]

theorem reads_run {make : Bytes → MessagePack} (h : content.length < BigEndian.size width) :
    (readMarked inner (.run width make)).Reads
      (BigEndian.bytes width content.length ++ content) (make content) := by
  intro rest
  have hlength := BigEndian.reads_read h (content ++ rest)
  have hcontent := reads_take content rest
  simp only [readMarked, List.append_assoc, hlength, hcontent, Option.bind_eq_bind,
    Option.bind_some, Option.pure_def]

end

section

variable {reader : ByteReader MessagePack} {bytes : Bytes} {width : Nat}
  {items : List MessagePack} {entries : List (MessagePack × MessagePack)}

theorem reads_extension {type : UInt8} {content : Bytes}
    (h : content.length < BigEndian.size width) :
    (readMarked (some reader) (.extension width)).Reads
      (BigEndian.bytes width content.length ++ type :: content) (.extension type content) := by
  intro rest
  have hlength := BigEndian.reads_read h (type :: content ++ rest)
  -- the type is not counted, and taken with the content
  have hcontent : take (content.length + 1) (type :: content ++ rest) = some (type :: content, rest) :=
    take_append (type :: content) rest
  simp only [readMarked, readExtension, List.append_assoc, hlength, hcontent, Option.bind_eq_bind,
    Option.bind_some, Option.pure_def]

theorem reads_fixedArray (h : (many reader items.length).Reads bytes items) :
    (readMarked (some reader) (.fixedArray items.length)).Reads bytes (.array items) := by
  intro rest
  have hitems := h rest
  simp only [readMarked, hitems, Option.bind_eq_bind, Option.bind_some, Option.pure_def]

theorem reads_countedArray (hcount : items.length < BigEndian.size width)
    (h : (many reader items.length).Reads bytes items) :
    (readMarked (some reader) (.array width)).Reads
      (BigEndian.bytes width items.length ++ bytes) (.array items) := by
  intro rest
  have hlength := BigEndian.reads_read hcount (bytes ++ rest)
  have hitems := h rest
  simp only [readMarked, List.append_assoc, hlength, hitems, Option.bind_eq_bind, Option.bind_some,
    Option.pure_def]

theorem reads_fixedMap (h : (many (pair reader) entries.length).Reads bytes entries) :
    (readMarked (some reader) (.fixedMap entries.length)).Reads bytes (.map entries) := by
  intro rest
  have hentries := h rest
  simp only [readMarked, hentries, Option.bind_eq_bind, Option.bind_some, Option.pure_def]

theorem reads_countedMap (hcount : entries.length < BigEndian.size width)
    (h : (many (pair reader) entries.length).Reads bytes entries) :
    (readMarked (some reader) (.map width)).Reads
      (BigEndian.bytes width entries.length ++ bytes) (.map entries) := by
  intro rest
  have hlength := BigEndian.reads_read hcount (bytes ++ rest)
  have hentries := h rest
  simp only [readMarked, List.append_assoc, hlength, hentries, Option.bind_eq_bind, Option.bind_some,
    Option.pure_def]

end

/-! ## Headers -/

section

variable {n : Nat}

theorem marker?_fixedMap (h : n < 16) : marker? (UInt8.ofNat (0x80 + n)) = some (.fixedMap n) := by
  rw [marker?, Utf8.toNat_ofNat (by omega)]
  rw [if_neg (by omega), if_pos (by omega), Nat.add_sub_cancel_left]

theorem marker?_fixedArray (h : n < 16) :
    marker? (UInt8.ofNat (0x90 + n)) = some (.fixedArray n) := by
  rw [marker?, Utf8.toNat_ofNat (by omega)]
  rw [if_neg (by omega), if_neg (by omega), if_pos (by omega), Nat.add_sub_cancel_left]

theorem marker?_fixedText (h : n < 32) :
    marker? (UInt8.ofNat (0xA0 + n)) = some (.fixedRun n .str) := by
  rw [marker?, Utf8.toNat_ofNat (by omega)]
  rw [if_neg (by omega), if_neg (by omega), if_neg (by omega), if_pos (by omega),
    Nat.add_sub_cancel_left]

end

section

variable {inner : Option (ByteReader MessagePack)} {reader : ByteReader MessagePack}
  {content bytes : Bytes} {items : List MessagePack} {entries : List (MessagePack × MessagePack)}

/-- **A text** is read back behind each of its four headers. -/
theorem reads_str (h : content.length < UInt32.size) :
    (readWith inner).Reads (textHeader content.length ++ content) (.str content) := by
  unfold textHeader
  split_ifs with h₅ h₈ h₁₆
  · exact reads_marked (marker?_fixedText h₅) reads_fixedRun
  · exact reads_marked (m := .run 1 .str) rfl (reads_run h₈)
  · exact reads_marked (m := .run 2 .str) rfl (reads_run h₁₆)
  · exact reads_marked (m := .run 4 .str) rfl (reads_run h)

/-- **A run of bytes** is read back behind each of its three headers. -/
theorem reads_bin (h : content.length < UInt32.size) :
    (readWith inner).Reads (bytesHeader content.length ++ content) (.bin content) := by
  unfold bytesHeader
  split_ifs with h₈ h₁₆
  · exact reads_marked (m := .run 1 .bin) rfl (reads_run h₈)
  · exact reads_marked (m := .run 2 .bin) rfl (reads_run h₁₆)
  · exact reads_marked (m := .run 4 .bin) rfl (reads_run h)

/-- **An array** is read back behind each of its three headers, if its items are. -/
theorem reads_array (hlength : items.length < UInt32.size)
    (h : (many reader items.length).Reads bytes items) :
    (readWith (some reader)).Reads (arrayHeader items.length ++ bytes) (.array items) := by
  unfold arrayHeader
  split_ifs with h₄ h₁₆
  · exact reads_marked (marker?_fixedArray h₄) (reads_fixedArray h)
  · exact reads_marked (m := .array 2) rfl (reads_countedArray h₁₆ h)
  · exact reads_marked (m := .array 4) rfl (reads_countedArray hlength h)

/-- **A map** is read back behind each of its three headers, if its entries are. -/
theorem reads_map (hlength : entries.length < UInt32.size)
    (h : (many (pair reader) entries.length).Reads bytes entries) :
    (readWith (some reader)).Reads (mapHeader entries.length ++ bytes) (.map entries) := by
  unfold mapHeader
  split_ifs with h₄ h₁₆
  · exact reads_marked (marker?_fixedMap h₄) (reads_fixedMap h)
  · exact reads_marked (m := .map 2) rfl (reads_countedMap h₁₆ h)
  · exact reads_marked (m := .map 4) rfl (reads_countedMap hlength h)

end

/-! ## Values -/

theorem writeItems_eq_flatMap (items : List MessagePack) : writeItems items = items.flatMap write := by
  induction items with
  | nil => rfl
  | cons item items ih => rw [writeItems, List.flatMap_cons, ih]

theorem writeEntries_eq_flatMap (entries : List (MessagePack × MessagePack)) :
    writeEntries entries = entries.flatMap fun entry => write entry.1 ++ write entry.2 := by
  induction entries with
  | nil => rfl
  | cons entry entries ih =>
    obtain ⟨key, value⟩ := entry
    rw [writeEntries, List.flatMap_cons, ih]

/-- A value whose lengths fit into four bytes, with at most so many arrays, maps and extensions around
any of its parts. -/
inductive Fits : Nat → MessagePack → Prop where
  | nil {depth : Nat} : Fits depth .nil
  | bool {depth : Nat} (value : Bool) : Fits depth (.bool value)
  | unsigned {depth : Nat} (n : UInt64) : Fits depth (.unsigned n)
  | signed {depth : Nat} (n : Int64) : Fits depth (.signed n)
  | float {depth : Nat} (x : Binary64) : Fits depth (.float x)
  | str {depth : Nat} {content : Bytes} (hlength : content.length < UInt32.size) :
      Fits depth (.str content)
  | bin {depth : Nat} {content : Bytes} (hlength : content.length < UInt32.size) :
      Fits depth (.bin content)
  | array {depth : Nat} {items : List MessagePack} (hlength : items.length < UInt32.size)
      (hitems : ∀ item ∈ items, Fits depth item) : Fits (depth + 1) (.array items)
  | map {depth : Nat} {entries : List (MessagePack × MessagePack)}
      (hlength : entries.length < UInt32.size) (hkeys : ∀ entry ∈ entries, Fits depth entry.1)
      (hvalues : ∀ entry ∈ entries, Fits depth entry.2) : Fits (depth + 1) (.map entries)
  | extension {depth : Nat} (type : UInt8) {content : Bytes}
      (hlength : content.length < UInt32.size) : Fits (depth + 1) (.extension type content)

/-- What is read whatever may be nested is read at every depth. -/
theorem reads_leaf {depth : Nat} {bytes : Bytes} {value : MessagePack}
    (h : ∀ inner, (readWith inner).Reads bytes value) : (readNested depth).Reads bytes value := by
  cases depth with
  | zero => exact h none
  | succ depth => exact h (some (readNested depth))

/-- Two's complement is read as it is written. -/
theorem ofSigned_toUInt64 (n : Int64) : ofSigned 8 n.toUInt64.toNat = .signed n := by
  have hvalue : n.toInt = if 2 * n.toUInt64.toNat < 2 ^ 64 then (n.toUInt64.toNat : Int)
      else n.toUInt64.toNat - (2 ^ 64 : Nat) := BitVec.toInt_eq_toNat_cond n.toBitVec
  have hsize : BigEndian.size 8 = 2 ^ 64 := rfl
  rw [ofSigned, hsize, ← hvalue, Int64.ofInt_toInt]

/-- **A value is read back** from its bytes, whatever stands behind them. -/
theorem Fits.reads {depth : Nat} {value : MessagePack} (h : Fits depth value) :
    (readNested depth).Reads value.write value := by
  induction h with
  | nil => exact reads_leaf fun _ => reads_marked (m := .value .nil) rfl reads_value
  | bool value =>
    cases value with
    | false => exact reads_leaf fun _ => reads_marked (m := .value (.bool false)) rfl reads_value
    | true => exact reads_leaf fun _ => reads_marked (m := .value (.bool true)) rfl reads_value
  | unsigned n =>
    refine reads_leaf fun inner => ?_
    have hnumber : (readMarked inner (.number 8 fun n => .unsigned (UInt64.ofNat n))).Reads
        (BigEndian.bytes 8 n.toNat) (.unsigned (UInt64.ofNat n.toNat)) := reads_number n.toNat_lt
    rw [UInt64.ofNat_toNat] at hnumber
    exact reads_marked rfl hnumber
  | signed n =>
    refine reads_leaf fun inner => ?_
    have hnumber : (readMarked inner (.number 8 (ofSigned 8))).Reads
        (BigEndian.bytes 8 n.toUInt64.toNat) (ofSigned 8 n.toUInt64.toNat) :=
      reads_number n.toUInt64.toNat_lt
    rw [ofSigned_toUInt64] at hnumber
    exact reads_marked rfl hnumber
  | float x =>
    refine reads_leaf fun inner => ?_
    have hnumber : (readMarked inner (.number 8 fun bits => .float ⟨UInt64.ofNat bits⟩)).Reads
        (BigEndian.bytes 8 x.bits.toNat) (.float ⟨UInt64.ofNat x.bits.toNat⟩) :=
      reads_number x.bits.toNat_lt
    rw [UInt64.ofNat_toNat] at hnumber
    exact reads_marked rfl hnumber
  | str hlength => exact reads_leaf fun _ => reads_str hlength
  | bin hlength => exact reads_leaf fun _ => reads_bin hlength
  | array hlength hitems ih =>
    rw [write, writeItems_eq_flatMap]
    exact reads_array hlength (.many ih)
  | map hlength hkeys hvalues ihkeys ihvalues =>
    rw [write, writeEntries_eq_flatMap]
    exact reads_map hlength (.entries ihkeys ihvalues)
  | extension type hlength => exact reads_marked rfl (reads_extension hlength)

/-- **The value at the start of an input** is the one that was written there. -/
theorem read?_write {value : MessagePack} (h : Fits maxDepth value) (rest : Bytes) :
    read? (value.write ++ rest) = some value := by
  rw [read?, h.reads, Option.map_some]

end Workflow.MessagePack
