import Mathlib.Algebra.Ring.Nat
import Workflow.Proofs.DomainName.Ascii
import Workflow.Proofs.Text.Hex
import Workflow.Proofs.Text.Percent
import Workflow.Url.Host

/-!
# Hosts of hexadecimal digits

A host may be a number, and numbers have several spellings. Among hosts of 32 hexadecimal digits no
two are the same.

* `readNumber?_inj`, `le_readNumber?`: numbers by their digits.
* `ipv4Text_inj`: addresses by their text.
* `ofSpecial?_digits`: a host of digits is the digits, or the address they say in base eight.
* `ofSpecial?_inj`, `ofOther?_digits`: two hosts of digits are different.
-/

namespace Workflow.Host

variable {digits digits' host : List Char} {radix n n' m m' : Nat}

/-! ## Numbers -/

/-- Reads digits behind a number. -/
def readNumber? (radix n : Nat) (digits : List Char) : Option Nat :=
  digits.foldlM (fun n c => do
    let d ← Hex.value? c
    if d < radix then return n * radix + d else none) n

theorem readNumber?_cons {c : Char} : readNumber? radix n (c :: digits) = some m ↔
    ∃ d, Hex.value? c = some d ∧ d < radix ∧ readNumber? radix (n * radix + d) digits = some m := by
  unfold readNumber?
  rw [List.foldlM_cons]
  cases Hex.value? c with
  | none => simp
  | some d =>
    by_cases hd : d < radix
    · simp [hd]
    · simp [hd]

/-- A number with more digits is at least as large as the digits before it make it. -/
theorem le_readNumber? (h : readNumber? radix n digits = some m) :
    n * radix ^ digits.length ≤ m := by
  induction digits generalizing n with
  | nil =>
    obtain rfl : n = m := Option.some.inj h
    simp
  | cons c digits ih =>
    obtain ⟨d, -, -, hrest⟩ := readNumber?_cons.1 h
    calc n * radix ^ (digits.length + 1)
        = n * radix * radix ^ digits.length := by rw [Nat.pow_succ', Nat.mul_assoc]
      _ ≤ (n * radix + d) * radix ^ digits.length :=
          Nat.mul_le_mul_right _ (Nat.le_add_right _ _)
      _ ≤ m := ih hrest

theorem readIpv4Number?_octal {x : Char} (hx : ¬ (x = 'x' ∨ x = 'X')) (rest : List Char) :
    readIpv4Number? ('0' :: x :: rest) = readNumber? 8 0 (x :: rest) := by
  unfold readIpv4Number?
  simp only [if_neg hx]
  rfl

theorem readIpv4Number?_decimal {first : Char} (h : first ≠ '0') (rest : List Char) :
    readIpv4Number? (first :: rest) = readNumber? 10 0 (first :: rest) := by
  unfold readIpv4Number?
  split
  rename_i radix ds hsplit
  split at hsplit
  · rename_i heq
    exact absurd (List.cons.inj heq).1 h
  · cases hsplit
    rfl

theorem value?_inj {c c' : Char} (hc : Hex.isDigit c = true) (hc' : Hex.isDigit c' = true)
    (h : Hex.value? c = Hex.value? c') : c = c' := by
  obtain ⟨value, hvalue, rfl⟩ := Hex.exists_digit hc
  obtain ⟨value', hvalue', rfl⟩ := Hex.exists_digit hc'
  rw [Hex.value?_digit value hvalue, Hex.value?_digit value' hvalue', Option.some.injEq] at h
  rw [h]

/-- **A number has one spelling** in a given number of digits. -/
theorem readNumber?_inj (hdigits : ∀ c ∈ digits, Hex.isDigit c = true)
    (hdigits' : ∀ c ∈ digits', Hex.isDigit c = true) (hlength : digits.length = digits'.length)
    (h : readNumber? radix n digits = some m) (h' : readNumber? radix n' digits' = some m) :
    n = n' ∧ digits = digits' := by
  induction digits generalizing digits' n n' with
  | nil =>
    obtain rfl := List.length_eq_zero_iff.1 hlength.symm
    obtain rfl : n = m := Option.some.inj h
    obtain rfl : n' = n := Option.some.inj h'
    exact ⟨rfl, rfl⟩
  | cons c digits ih =>
    obtain ⟨c', digits', rfl⟩ :=
      List.exists_cons_of_ne_nil (l := digits') (by rintro rfl; simp at hlength)
    rw [List.forall_mem_cons] at hdigits hdigits'
    obtain ⟨d, hc, hd, hrest⟩ := readNumber?_cons.1 h
    obtain ⟨d', hc', hd', hrest'⟩ := readNumber?_cons.1 h'
    obtain ⟨hnumber, rfl⟩ := ih hdigits.2 hdigits'.2 (Nat.succ.inj hlength) hrest hrest'
    have hdigit : d = d' := by
      have hmod := congrArg (· % radix) hnumber
      simpa [Nat.mul_add_mod_of_lt, Nat.mul_comm, Nat.mod_eq_of_lt hd, Nat.mod_eq_of_lt hd'] using hmod
    subst hdigit
    have hfront : n * radix = n' * radix := Nat.add_right_cancel hnumber
    refine ⟨Nat.eq_of_mul_eq_mul_right (by omega) hfront, ?_⟩
    rw [value?_inj hdigits.1 hdigits'.1 (hc.trans hc'.symm)]

/-! ## Addresses -/

theorem not_mem_toDigits (n : Nat) : '.' ∉ Nat.toDigits 10 n := fun hmem =>
  absurd (Nat.isDigit_of_mem_toDigits (by decide) (by decide) hmem) (by decide)

theorem toDigits_inj (h : Nat.toDigits 10 n = Nat.toDigits 10 m) : n = m := by
  rw [← Nat.ofDigitChars_toDigits (b := 10) (n := n) (by decide) (by decide), h,
    Nat.ofDigitChars_toDigits (by decide) (by decide)]

/-- **An address has one text.** -/
theorem ipv4Text_inj (hn : n < 256 ^ 4) (hm : m < 256 ^ 4) (h : ipv4Text n = ipv4Text m) :
    n = m := by
  have hsplit : ∀ n, (ipv4Text n).splitOn '.' =
      [Nat.toDigits 10 (n / Nat.pow 256 3 % 256), Nat.toDigits 10 (n / Nat.pow 256 2 % 256),
        Nat.toDigits 10 (n / Nat.pow 256 1 % 256), Nat.toDigits 10 (n / Nat.pow 256 0 % 256)] := by
    intro n
    simp only [ipv4Text, List.splitOn_append_cons_self,
      List.splitOn_eq_singleton (not_mem_toDigits _)]
    rfl
  have hparts := congrArg (·.splitOn '.') h
  simp only [hsplit, List.cons.injEq, and_true] at hparts
  obtain ⟨h₃, h₂, h₁, h₀⟩ := hparts
  -- the powers as numbers, for the arithmetic at the end
  have h₃ : n / 16777216 % 256 = m / 16777216 % 256 := toDigits_inj h₃
  have h₂ : n / 65536 % 256 = m / 65536 % 256 := toDigits_inj h₂
  have h₁ : n / 256 % 256 = m / 256 % 256 := toDigits_inj h₁
  have h₀ : n / 1 % 256 = m / 1 % 256 := toDigits_inj h₀
  omega

theorem mem_ipv4Text (n : Nat) : '.' ∈ ipv4Text n := by
  simp [ipv4Text]

/-! ## Digits as a host -/

section

variable (hdigits : ∀ c ∈ digits, Hex.isDigit c = true) (hlength : digits.length = 32)

include hdigits

theorem decode_digits : Utf8.decodeChars? (Percent.decode digits) = some digits := by
  have hpercent : UInt8.ofNat '%'.toNat ∉ Utf8.encodeChars digits :=
    Percent.not_mem_encodeChars (by decide) (Hex.not_mem_of_isDigit hdigits (by decide))
  rw [Percent.decode, Percent.decodeBytes_of_not_mem hpercent, Utf8.decodeChars?_encodeChars]

theorem toAscii?_digits {domain : List Char} (h : DomainName.toAscii? digits = some domain) :
    domain = digits := by
  refine DomainName.toAscii?_eq (fun c hc => ?_) (Hex.not_mem_of_isDigit hdigits (by decide)) ?_ h
  · exact Hex.forall_digit (p := fun c => c.toNat < 0x80 ∧ c.toLower = c) (by decide) (hdigits c hc)
  · rw [← Bool.not_eq_true, List.isPrefixOf_iff_prefix]
    rintro ⟨rest, hrest⟩
    exact Hex.not_mem_of_isDigit hdigits (c := 'x') (by decide) (hrest ▸ List.mem_cons_self)

theorem dottedParts_digits : dottedParts digits = [digits] := by
  rw [dottedParts, List.splitOn_eq_singleton (Hex.not_mem_of_isDigit hdigits (by decide))]
  rfl

include hlength

/-- Digits that are an address say it in base eight, behind a nought: in base ten they say too
much. -/
theorem readIpv4?_digits (h : readIpv4? digits = some host) : ∃ rest n, digits = '0' :: rest ∧
    readNumber? 8 0 rest = some n ∧ n < 256 ^ 4 ∧ host = ipv4Text n := by
  unfold readIpv4? at h
  rw [dottedParts_digits hdigits, List.mapM_cons, List.mapM_nil] at h
  cases hread : readIpv4Number? digits with
  | none => simp [hread] at h
  | some n =>
    simp only [hread, Option.bind_eq_bind, Option.bind_some, Option.pure_def] at h
    obtain ⟨address, haddress, h⟩ := Option.bind_eq_some_iff.1 h
    obtain rfl := Option.some.inj h
    have hjoin : joinIpv4? [n] = if 256 ^ 4 ≤ n then none else some n := by
      unfold joinIpv4?
      simp
    rw [hjoin] at haddress
    split at haddress
    · cases haddress
    obtain rfl := Option.some.inj haddress
    have hbound : n < 256 ^ 4 := by omega
    match digits, hlength with
    | first :: x :: rest, hlength =>
      by_cases hfirst : first = '0'
      · subst hfirst
        have hx : ¬ (x = 'x' ∨ x = 'X') := by
          have hmem : Hex.isDigit x = true := hdigits x (List.mem_cons_of_mem _ List.mem_cons_self)
          rintro (rfl | rfl) <;> exact absurd hmem (by decide)
        refine ⟨x :: rest, n, rfl, ?_, hbound, rfl⟩
        rwa [readIpv4Number?_octal hx] at hread
      · rw [readIpv4Number?_decimal hfirst] at hread
        -- 31 digits behind the first make more than four bytes hold
        obtain ⟨d, hvalue, -, hrest⟩ := readNumber?_cons.1 hread
        have hpos : d ≠ 0 := by
          rintro rfl
          have hdigit := hdigits first List.mem_cons_self
          exact hfirst (value?_inj hdigit (by decide) (hvalue.trans (by decide)))
        have hle := le_readNumber? hrest
        have hcount : (x :: rest).length = 31 := by simpa using hlength
        rw [hcount] at hle
        omega

/-- **A host of digits** is the digits, or the address that they say in base eight. -/
theorem ofSpecial?_digits (h : ofSpecial? digits = some host) : host = digits ∨
    ∃ rest n, digits = '0' :: rest ∧ readNumber? 8 0 rest = some n ∧ n < 256 ^ 4 ∧
      host = ipv4Text n := by
  have hbracket : digits.head? ≠ some '[' := fun hhead =>
    Hex.not_mem_of_isDigit hdigits (c := '[') (by decide) (List.mem_of_mem_head? hhead)
  unfold ofSpecial? at h
  rw [if_neg hbracket, ofDomain?, decode_digits hdigits] at h
  simp only [Option.bind_eq_bind, Option.bind_some] at h
  obtain ⟨domain, hdomain, hhost⟩ := Option.bind_eq_some_iff.1 h
  obtain rfl := toAscii?_digits hdigits hdomain
  split at hhost
  · cases hhost
  split at hhost
  · exact .inr (readIpv4?_digits hdigits hlength hhost)
  · exact .inl (Option.some.inj hhost).symm

end

theorem ofOther?_digits (hdigits : ∀ c ∈ digits, Hex.isDigit c = true) :
    ofOther? digits = some digits := by
  have hbracket : digits.head? ≠ some '[' := fun hhead =>
    Hex.not_mem_of_isDigit hdigits (c := '[') (by decide) (List.mem_of_mem_head? hhead)
  have hforbidden : digits.any isForbidden = false := by
    rw [List.any_eq_false]
    intro c hc
    rw [Bool.not_eq_true]
    exact Hex.forall_digit (p := fun c => isForbidden c = false) (by decide) (hdigits c hc)
  have hplain : Percent.encodeChars isPlain digits = digits := Percent.encodeChars_of_kept
    fun c hc => Hex.forall_digit (p := fun c => c.toNat < 0x80 ∧ isPlain c = true) (by decide)
      (hdigits c hc)
  rw [ofOther?, if_neg hbracket, hforbidden, hplain]
  rfl

/-- **Two hosts of digits** are different. -/
theorem ofSpecial?_inj (hdigits : ∀ c ∈ digits, Hex.isDigit c = true)
    (hdigits' : ∀ c ∈ digits', Hex.isDigit c = true) (hlength : digits.length = 32)
    (hlength' : digits'.length = 32) (h : ofSpecial? digits = some host)
    (h' : ofSpecial? digits' = some host) : digits = digits' := by
  -- an address has dots in it, and digits have none
  rcases ofSpecial?_digits hdigits hlength h with rfl | ⟨rest, n, rfl, hread, hn, rfl⟩
  · rcases ofSpecial?_digits hdigits' hlength' h' with heq | ⟨rest', m, -, -, -, heq⟩
    · exact heq
    · exact absurd (heq ▸ mem_ipv4Text m) (Hex.not_mem_of_isDigit hdigits (by decide))
  · rcases ofSpecial?_digits hdigits' hlength' h' with heq | ⟨rest', m, rfl, hread', hm, heq⟩
    · exact absurd (heq ▸ mem_ipv4Text n) (Hex.not_mem_of_isDigit hdigits' (by decide))
    · obtain rfl := ipv4Text_inj hn hm heq
      rw [List.forall_mem_cons] at hdigits hdigits'
      have hcount : rest.length = rest'.length := by
        rw [List.length_cons] at hlength hlength'
        omega
      rw [(readNumber?_inj hdigits.2 hdigits'.2 hcount hread hread').2]

end Workflow.Host
