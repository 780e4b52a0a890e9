import Workflow.Number.BigEndian

/-!
# Bytes that are read back

Encoders put a value in front of whatever comes next, so a reader has read them back when it gives the
value and leaves what is behind. `Reads` says so of one reader, one run of bytes and one thing; the
lemmas follow the readers that are built from others: `Reads.many`, `Reads.pair`, `reads_take`,
`BigEndian.reads_read`.
-/

namespace Workflow

namespace ByteReader

variable {α : Type} {reader : ByteReader α}

/-- Bytes are read as a thing, whatever stands behind them. -/
def Reads (reader : ByteReader α) (bytes : Bytes) (x : α) : Prop :=
  ∀ rest, reader (bytes ++ rest) = some (x, rest)

theorem reads_take (content : Bytes) : (take content.length).Reads content content :=
  take_append content

/-- Things one behind the other are read one by one. -/
theorem Reads.many {write : α → Bytes} {xs : List α} (h : ∀ x ∈ xs, reader.Reads (write x) x) :
    (many reader xs.length).Reads (xs.flatMap write) xs := by
  induction xs with
  | nil => exact fun rest => rfl
  | cons x xs ih =>
    rw [List.forall_mem_cons] at h
    intro rest
    have hfirst := h.1 (xs.flatMap write ++ rest)
    have hlater := ih h.2 rest
    rw [List.flatMap_cons, List.append_assoc, List.length_cons, ByteReader.many, hfirst]
    simp only [hlater, Option.map_some]

theorem Reads.pair {key value : Bytes} {x y : α} (hkey : reader.Reads key x)
    (hvalue : reader.Reads value y) : (ByteReader.pair reader).Reads (key ++ value) (x, y) := by
  intro rest
  have hfirst := hkey (value ++ rest)
  have hsecond := hvalue rest
  simp only [ByteReader.pair, List.append_assoc, hfirst, hsecond, Option.bind_eq_bind,
    Option.bind_some, Option.pure_def]

/-- Entries one behind the other, each key before its value. -/
theorem Reads.entries {write : α → Bytes} {entries : List (α × α)}
    (hkeys : ∀ entry ∈ entries, reader.Reads (write entry.1) entry.1)
    (hvalues : ∀ entry ∈ entries, reader.Reads (write entry.2) entry.2) :
    (ByteReader.many (ByteReader.pair reader) entries.length).Reads
      (entries.flatMap fun entry => write entry.1 ++ write entry.2) entries :=
  .many fun entry hentry => .pair (hkeys entry hentry) (hvalues entry hentry)

end ByteReader

theorem BigEndian.reads_read {width n : Nat} (h : n < size width) :
    (read width).Reads (bytes width n) n :=
  read_bytes h

end Workflow
