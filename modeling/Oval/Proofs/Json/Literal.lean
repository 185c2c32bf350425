import Oval.Json.Printer
import Oval.Json.Reader
import Oval.Proofs.Text.Decimal

/-! # Printed strings and numerals are read back

Whatever follows a closing quote, the string before it is read as it was printed.  A numeral goes on
as long as digits do, so what follows it must end it.
-/
namespace Oval.Json
open Reader

theorem hexDigit?_hexChar : ∀ n < 16, Text.hexDigit? (Printer.hexChar n) = some n := by decide

theorem hexValue?_hexChar {n : Nat} (h : n < 256) :
    Text.hexValue? ['0', '0', Printer.hexChar (n / 16), Printer.hexChar (n % 16)] = some n := by
  have hzero : Text.hexDigit? '0' = some 0 := rfl
  have hhigh := hexDigit?_hexChar (n / 16) (by omega)
  have hlow := hexDigit?_hexChar (n % 16) (by omega)
  simp [Text.hexValue?, hzero, hhigh, hlow]
  omega

theorem pieceOfUnit_toNat {c : Char} (h : c.toNat < 256) : pieceOfUnit c.toNat = .char c := by
  rw [pieceOfUnit, Char.ofNat_toNat, if_neg]
  simp
  omega

def consPiece (c : Char) (s : List Char) : Option (List Piece × List Char) :=
  (pieces? s).map fun (ps, rest) => (.char c :: ps, rest)

theorem pieces?_plain {c : Char} (hquote : c ≠ '"') (hescape : c ≠ '\\') (hlow : 0x20 ≤ c.toNat)
    (s : List Char) : pieces? (c :: s) = consPiece c s := by
  rw [pieces?.eq_5, if_neg]
  · cases hs : pieces? s <;> simp [consPiece, hs]
  · simp [hescape]
    omega
  · exact hquote
  · intro _ _ _ _ _ h
    exact absurd h hescape
  · intro _ _ h
    exact absurd h hescape

theorem pieces?_named {e c : Char} (h : escaped? e = some c) (s : List Char) :
    pieces? ('\\' :: e :: s) = consPiece c s := by
  rw [pieces?.eq_4, h]
  · cases hs : pieces? s <;> simp [consPiece, hs]
  · rintro _ _ _ _ _ rfl
    cases h

theorem pieces?_numbered {c : Char} (h : c.toNat < 0x20) (s : List Char) :
    pieces? ('\\' :: 'u' :: '0' :: '0' :: Printer.hexChar (c.toNat / 16) ::
      Printer.hexChar (c.toNat % 16) :: s) = consPiece c s := by
  rw [pieces?.eq_3, hexValue?_hexChar (by omega)]
  cases hs : pieces? s <;> simp [consPiece, hs, pieceOfUnit_toNat (c := c) (by omega)]

theorem pieces?_escape (c : Char) (s : List Char) :
    pieces? (Printer.escape c ++ s) = consPiece c s := by
  unfold Printer.escape
  split
  case h_8 c hquote hescape _ _ _ _ _ =>
    split
    · rename_i hlow
      exact pieces?_numbered hlow s
    · rename_i hlow
      exact pieces?_plain hquote hescape (Nat.le_of_not_lt hlow) s
  all_goals exact pieces?_named rfl s

theorem pieces?_string (s rest : List Char) :
    pieces? (s.flatMap Printer.escape ++ '"' :: rest) = some (s.map .char, rest) := by
  induction s with
  | nil => rfl
  | cons c s ih =>
    rw [List.flatMap_cons, List.append_assoc, pieces?_escape, consPiece, ih]
    rfl

theorem characters?_map_char (s : List Char) : characters? (s.map .char) = some s := by
  induction s with
  | nil => rfl
  | cons c s ih => simp [characters?, ih]

/-- After its opening quote a printed string is read up to its closing one. -/
theorem string?_maybeString (s : Option String) :
    ∃ t, Printer.maybeString s = '"' :: t ∧
      ∀ rest, Reader.string? (t ++ rest) = some (s, rest) := by
  cases s with
  | none => exact ⟨_, rfl, fun rest => rfl⟩
  | some s =>
    refine ⟨_, rfl, ?_⟩
    intro rest
    rw [List.append_assoc, List.singleton_append, Reader.string?, pieces?_string]
    simp [characters?_map_char]

/-- What may follow a value inside a printed one: nothing, a comma or a closing bracket. -/
def Ends (rest : List Char) : Prop :=
  ∀ c, rest.head? = some c → c = ',' ∨ c = ']' ∨ c = '}'

theorem ends_nil : Ends [] := by simp [Ends]

theorem ends_cons {c : Char} (h : c = ',' ∨ c = ']' ∨ c = '}') (rest : List Char) :
    Ends (c :: rest) := by
  simpa [Ends] using h

theorem Ends.not_isDigit {rest : List Char} (h : Ends rest) :
    ∀ c, rest.head? = some c → ¬Text.isDigit c = true := by
  intro c hc
  rcases h c hc with rfl | rfl | rfl <;> decide

theorem isDigit_of_mem_toDigits {n : Nat} {c : Char} (h : c ∈ Nat.toDigits 10 n) :
    Text.isDigit c = true := by
  have hdigit := Nat.isDigit_of_mem_toDigits (by decide) (by decide) h
  simpa [Char.isDigit, Text.isDigit, Char.le_def] using hdigit

theorem head?_toDigits_ne_zero {n : Nat} (h : 0 < n) : (Nat.toDigits 10 n).head? ≠ some '0' := by
  have hone : ∀ m < 10, 0 < m → m.digitChar ≠ '0' := by decide
  induction n using Nat.strongRecOn with
  | ind n ih =>
    by_cases hlt : n < 10
    · rw [Nat.toDigits_of_lt_base hlt, List.head?_singleton, ne_eq, Option.some.injEq]
      exact hone n hlt h
    · have hne : Nat.toDigits 10 (n / 10) ≠ [] := Nat.toDigits_ne_nil
      obtain ⟨c, ds, hds⟩ := List.exists_cons_of_ne_nil hne
      have hrest := ih (n / 10) (by omega) (by omega)
      rw [Nat.toDigits_of_base_le (by decide) (by omega), hds]
      rw [hds] at hrest
      exact hrest

theorem digits?_append {ds rest : List Char} (hne : ds ≠ []) (hds : ∀ c ∈ ds, Text.isDigit c = true)
    (hrest : Ends rest) : digits? (ds ++ rest) = some (ds, rest) := by
  have hstop : rest.takeWhile Text.isDigit = [] ∧ rest.dropWhile Text.isDigit = rest := by
    cases rest with
    | nil => exact ⟨rfl, rfl⟩
    | cons c rest =>
      have hc := hrest.not_isDigit c rfl
      exact ⟨List.takeWhile_cons_of_neg hc, List.dropWhile_cons_of_neg hc⟩
  rw [digits?, List.takeWhile_append_of_pos hds, List.dropWhile_append_of_pos hds, hstop.1,
    hstop.2, List.append_nil, if_neg (by simpa using hne)]

/-- A whole number goes on neither with a fraction nor with an exponent. -/
theorem fraction?_exponent?_of_ends {rest : List Char} (h : Ends rest) :
    fraction? rest = some (none, rest) ∧ exponent? rest = some (none, rest) := by
  cases rest with
  | nil => exact ⟨rfl, rfl⟩
  | cons c rest => rcases h c rfl with rfl | rfl | rfl <;> exact ⟨rfl, rfl⟩

theorem number?_toDigits (n : Nat) {rest : List Char} (h : Ends rest) :
    number? (Nat.toDigits 10 n ++ rest) = some ({ whole := Nat.toDigits 10 n }, rest) := by
  have hdigits := digits?_append Nat.toDigits_ne_nil (fun c => isDigit_of_mem_toDigits (n := n)) h
  have hzero : ¬((Nat.toDigits 10 n).head? = some '0' ∧ (Nat.toDigits 10 n).length > 1) := by
    rintro ⟨hhead, hlength⟩
    rcases Nat.eq_zero_or_pos n with rfl | hn
    · rw [Nat.toDigits_zero] at hlength
      exact absurd hlength (by decide)
    · exact head?_toDigits_ne_zero hn hhead
  obtain ⟨hfraction, hexponent⟩ := fraction?_exponent?_of_ends h
  rw [number?, hdigits]
  · simp [hzero, hfraction, hexponent]
  · intro r hr
    have hminus : '-' ∈ Nat.toDigits 10 n := by
      obtain ⟨c, ds, hds⟩ := List.exists_cons_of_ne_nil (Nat.toDigits_ne_nil (n := n) (b := 10))
      rw [hds, List.cons_append, List.cons.injEq] at hr
      rw [hds, hr.1]
      exact List.mem_cons_self
    exact absurd (isDigit_of_mem_toDigits hminus) (by decide)

end Oval.Json
