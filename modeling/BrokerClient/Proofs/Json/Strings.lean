import BrokerClient.Json.Reader
import BrokerClient.Json.Printer

/-!
# Strings in JSON text

Whatever characters a string has, it is read as it is written. Each of its characters is written
as one unit, by itself or as an escape, and the reader takes one unit at a time.

## Main results

* `Json.stringBody_escapeChar` — one character is read as it is written.
* `Json.stringBody_tailChars` — a string is read as it is written.
-/

namespace BrokerClient.Json

open Text

/-- A hexadecimal digit has the value that it stands for. -/
theorem hexValue?_digitChar {n : Nat} (h : n < 16) :
    Percent.hexValue? (Nat.digitChar n) = some n := by
  have all : ∀ k : Fin 16, Percent.hexValue? (Nat.digitChar k) = some k.val := by decide
  exact all ⟨n, h⟩

/-- Four hexadecimal digits are read as the number that they are the digits of. -/
theorem hexQuad_hexDigits {n : Nat} (h : n < 65536) (rest : List Char) :
    hexQuad (hexDigits 4 n ++ rest) = some (n, rest) := by
  have digits : hexDigits 4 n = [Nat.digitChar (n / 4096 % 16), Nat.digitChar (n / 256 % 16),
      Nat.digitChar (n / 16 % 16), Nat.digitChar (n / 1 % 16)] := rfl
  have value (k : Nat) : Percent.hexValue? (Nat.digitChar (k % 16)) = some (k % 16) :=
    hexValue?_digitChar (Nat.mod_lt _ (by decide))
  have sum : ((n / 4096 % 16 * 16 + n / 256 % 16) * 16 + n / 16 % 16) * 16 + n % 16 = n := by
    omega
  simp [digits, hexQuad, value, sum]

/-- The escape of a character below the surrogates is read as this character. -/
theorem unicodeEscape_hexDigits {c : Char} (h : c.toNat < 0xd800) (rest : List Char) :
    unicodeEscape (hexDigits 4 c.toNat ++ rest) = some (c, rest) := by
  have low : ¬ (0xd800 ≤ c.toNat ∧ c.toNat < 0xdc00) := by omega
  have high : ¬ (0xdc00 ≤ c.toNat ∧ c.toNat < 0xe000) := by omega
  simp [unicodeEscape, hexQuad_hexDigits (show c.toNat < 65536 by omega), low, high,
    Char.ofNat_toNat]

/-- One character is read as it is written. -/
theorem stringBody_escapeChar (fuel : Nat) (seen : List Char) (c : Char) (rest : List Char) :
    stringBody (fuel + 1) seen (escapeChar c ++ rest) = stringBody fuel (c :: seen) rest := by
  have short {d e : Char} (h : escape (e :: rest) = some (d, rest)) :
      stringBody (fuel + 1) seen ('\\' :: e :: rest) = stringBody fuel (d :: seen) rest := by
    simp [stringBody, h]
  by_cases quote : c = '"'
  · subst quote
    exact short rfl
  by_cases backslash : c = '\\'
  · subst backslash
    exact short rfl
  by_cases newline : c = '\n'
  · subst newline
    exact short rfl
  by_cases ret : c = '\r'
  · subst ret
    exact short rfl
  by_cases tab : c = '\t'
  · subst tab
    exact short rfl
  by_cases back : c = '\x08'
  · subst back
    exact short rfl
  by_cases feed : c = '\x0c'
  · subst feed
    exact short rfl
  by_cases control : c.toNat < 0x20
  · have coded := unicodeEscape_hexDigits (show c.toNat < 0xd800 by omega) rest
    simp [escapeChar, quote, backslash, newline, ret, tab, back, feed, control, stringBody, escape,
      coded]
  · simp [escapeChar, quote, backslash, newline, ret, tab, back, feed, control, stringBody]

/-- The characters of a string are read as they are written, up to its closing quote. -/
theorem stringBody_flatMap {cs : List Char} {fuel : Nat} (seen rest : List Char)
    (h : cs.length < fuel) :
    stringBody fuel seen (cs.flatMap escapeChar ++ '"' :: rest) =
      some (String.ofList (seen.reverse ++ cs), rest) := by
  induction cs generalizing fuel seen with
  | nil =>
    obtain ⟨fuel, rfl⟩ := Nat.exists_eq_add_one_of_ne_zero (Nat.ne_zero_of_lt h)
    simp [stringBody]
  | cons c cs ih =>
    obtain ⟨fuel, rfl⟩ := Nat.exists_eq_add_one_of_ne_zero (Nat.ne_zero_of_lt h)
    rw [List.length_cons] at h
    rw [List.flatMap_cons, List.append_assoc, stringBody_escapeChar, ih _ (by omega)]
    simp

theorem length_le_flatMap_escapeChar (cs : List Char) :
    cs.length ≤ (cs.flatMap escapeChar).length := by
  induction cs with
  | nil => exact Nat.le_refl _
  | cons c cs ih =>
    have one : 1 ≤ (escapeChar c).length := by
      unfold escapeChar
      repeat' split
      all_goals simp
    rw [List.flatMap_cons, List.length_append, List.length_cons]
    omega

/-- The text of a string, its opening quote apart. -/
def tailChars (s : String) : List Char :=
  s.toList.flatMap escapeChar ++ ['"']

theorem stringChars_eq (s : String) : stringChars s = '"' :: tailChars s :=
  rfl

/-- A string is read as it is written. -/
theorem stringBody_tailChars (s : String) (rest : List Char) :
    stringBody ((tailChars s ++ rest).length + 1) [] (tailChars s ++ rest) = some (s, rest) := by
  have fuel := length_le_flatMap_escapeChar s.toList
  rw [tailChars, List.append_assoc, List.singleton_append, stringBody_flatMap]
  · simp
  · rw [List.length_append, List.length_cons]
    omega

end BrokerClient.Json
