import Mathlib
import BrokerClient.Proofs.Json.Numbers
import BrokerClient.Proofs.Json.RoundTrip
import BrokerClient.Settings.Basic

/-!
# Addresses keep what they are built from

The address of a broker is put together from the parts of the settings with `:`, `@` and `/` in
between. The host stands in it as it is, with whatever characters it has; the credentials and the
virtual host are percent-encoded, and no encoded text has one of the three separators. So an address
can be taken apart: the credentials end at the first `:` and the first `@`, the virtual host begins
after the last `/`, and the port after the last `:` before that.

## Main definitions

* `Text.splitFirst`, `Text.splitLast` — what stands before and after a character.
* `Settings.Address` — the parts of an address, with `Settings.Address.ofText?` to take one apart.

## Main results

* `Text.Percent.decode_encodeWith` — an encoded text is read back.
* `Text.Percent.not_mem_encodeWith` — an encoded text has no separator.
* `Settings.url_parts` — the parts of an address are those of the settings, and settings with the
  same address agree on all of them.
-/

namespace BrokerClient

namespace Text

/-! ### Taking texts apart -/

/-- What stands before and what stands after the first occurrence of a character. -/
def splitFirst (c : Char) : List Char → Option (List Char × List Char)
  | [] => none
  | d :: ds => if d = c then some ([], ds) else (splitFirst c ds).map fun p => (d :: p.1, p.2)

/-- What stands before and what stands after the last occurrence of a character. -/
def splitLast (c : Char) (cs : List Char) : Option (List Char × List Char) :=
  (splitFirst c cs.reverse).map fun p => (p.2.reverse, p.1.reverse)

variable {c : Char} {cs ds : List Char}

theorem splitFirst_append (free : c ∉ cs) : splitFirst c (cs ++ c :: ds) = some (cs, ds) := by
  induction cs with
  | nil => simp [splitFirst]
  | cons d cs ih =>
    obtain ⟨other, free⟩ := List.ne_and_not_mem_of_not_mem_cons free
    simp [splitFirst, Ne.symm other, ih free]

theorem splitLast_append (free : c ∉ ds) : splitLast c (cs ++ c :: ds) = some (cs, ds) := by
  have reversed : (cs ++ c :: ds).reverse = ds.reverse ++ c :: cs.reverse := by simp
  rw [splitLast, reversed, splitFirst_append (by simpa using free)]
  simp

namespace Percent

/-! ### Reading encoded texts back -/

/-- The characters that stand between the parts of an address. -/
def separators : List Char := [':', '@', '/']

/-- Only ASCII characters stand for themselves, and neither a separator nor the mark of an encoded
byte is among them. -/
def Plain (keep : UInt8 → Bool) : Prop :=
  ∀ b, keep b → b.toNat < 128 ∧ Char.ofNat b.toNat ∉ '%' :: separators

theorem plain_isUnreserved : Plain isUnreserved := by
  have all : ∀ k : Fin 256, isUnreserved (UInt8.ofFin k) →
      k.val < 128 ∧ Char.ofNat k.val ∉ '%' :: separators := by decide +kernel
  exact fun b kept => all b.toFin kept

/-- A further character may stand for itself if it is as plain as the others. -/
theorem Plain.or {keep more : UInt8 → Bool} (h : Plain keep) (h' : Plain more) :
    Plain fun b => keep b || more b := by
  intro b kept
  rcases Bool.or_eq_true_iff.mp kept with kept | kept
  · exact h b kept
  · exact h' b kept

theorem plain_star : Plain (· == 42) := by
  intro b star
  obtain rfl := beq_iff_eq.mp star
  decide

theorem toNat_ofNat {n : Nat} (h : n < 128) : (Char.ofNat n).toNat = n := by
  have all : ∀ k : Fin 128, (Char.ofNat k).toNat = k.val := by decide
  exact all ⟨n, h⟩

theorem hexValue?_hexDigit {n : Nat} (h : n < 16) : hexValue? (hexDigit n) = some n := by
  have all : ∀ k : Fin 16, hexValue? (hexDigit k) = some k.val := by decide
  exact all ⟨n, h⟩

theorem hexDigit_notMem {n : Nat} (h : n < 16) : hexDigit n ∉ separators := by
  have all : ∀ k : Fin 16, hexDigit k ∉ separators := by decide
  exact all ⟨n, h⟩

variable {keep : UInt8 → Bool}

/-- One byte is read as it is encoded. -/
theorem decodeBytes_encodeByte (plain : Plain keep) (b : UInt8) (rest : List Char) :
    decodeBytes (encodeByte keep b ++ rest) = (decodeBytes rest).map (b :: ·) := by
  unfold encodeByte
  split
  case isTrue kept =>
    obtain ⟨ascii, other⟩ := plain b kept
    have value : (Char.ofNat b.toNat).toNat = b.toNat := toNat_ofNat ascii
    have literal : Char.ofNat b.toNat ≠ '%' := fun h => other (h ▸ List.mem_cons_self)
    rw [List.singleton_append, decodeBytes]
    · simp [literal, value, ascii]
    · exact fun _ _ _ h _ => literal h
  case isFalse =>
    have high := hexValue?_hexDigit (n := b.toNat / 16) (by have := b.toNat_lt; omega)
    have low := hexValue?_hexDigit (n := b.toNat % 16) (by omega)
    have byte : (16 * (b.toNat / 16) + b.toNat % 16).toUInt8 = b := by
      rw [Nat.div_add_mod, Nat.toUInt8_eq, UInt8.ofNat_toNat]
    simp only [List.cons_append, List.nil_append, decodeBytes, high, low, Option.bind_eq_bind,
      Option.bind_some, byte]
    cases decodeBytes rest <;> rfl

/-- Bytes are read as they are encoded. -/
theorem decodeBytes_flatMap (plain : Plain keep) (bytes : List UInt8) :
    decodeBytes (bytes.flatMap (encodeByte keep)) = some bytes := by
  induction bytes with
  | nil => rfl
  | cons b bytes ih => rw [List.flatMap_cons, decodeBytes_encodeByte plain, ih, Option.map_some]

theorem toList_loop (bytes : ByteArray) (i : Nat) (seen : List UInt8) :
    ByteArray.toList.loop bytes i seen = seen.reverse ++ bytes.data.toList.drop i := by
  induction i, seen using ByteArray.toList.loop.induct bytes with
  | case1 i seen inside ih =>
    have next : bytes.data.toList.drop i = bytes.get! i :: bytes.data.toList.drop (i + 1) := by
      rw [List.drop_eq_getElem_cons (by simpa using inside)]
      simp [ByteArray.get!, getElem!_pos bytes.data i inside]
    rw [ByteArray.toList.loop, if_pos inside, ih, next]
    simp
  | case2 i seen outside =>
    have past : bytes.data.toList.length ≤ i := by simpa using Nat.not_lt.mp outside
    rw [ByteArray.toList.loop, if_neg outside, List.drop_of_length_le past, List.append_nil]

/-- An encoded text is read back. -/
theorem decode_encodeWith (plain : Plain keep) (s : String) :
    decode (encodeWith keep s) = some s := by
  have bytes : decodeBytes (encodeWith keep s).toList = some s.toUTF8.toList := by
    rw [encodeWith, String.toList_ofList, decodeBytes_flatMap plain]
  have array : (⟨s.toUTF8.toList.toArray⟩ : ByteArray) = s.toUTF8 := by
    rw [ByteArray.toList, toList_loop]
    rfl
  rw [decode, bytes, Option.bind_eq_bind, Option.bind_some, array, Json.fromUTF8?_toUTF8]

/-- An encoded text has no separator. -/
theorem not_mem_encodeWith (plain : Plain keep) (s : String) {c : Char} (h : c ∈ separators) :
    c ∉ (encodeWith keep s).toList := by
  rw [encodeWith, String.toList_ofList]
  intro mem
  obtain ⟨b, -, mem⟩ := List.mem_flatMap.mp mem
  unfold encodeByte at mem
  split at mem
  case isTrue kept =>
    obtain rfl := List.mem_singleton.mp mem
    exact (plain b kept).2 (List.mem_cons_of_mem _ h)
  case isFalse =>
    simp only [List.mem_cons, List.not_mem_nil, or_false] at mem
    rcases mem with rfl | rfl | rfl
    · exact absurd h (by decide)
    · exact hexDigit_notMem (by have := b.toNat_lt; omega) h
    · exact hexDigit_notMem (by omega) h

end Percent

end Text

namespace Settings

open Text

/-! ### The parts of an address -/

/-- What an address tells about where and as whom to connect. -/
structure Address where
  user : String
  password : String
  host : String
  port : String
  vhost : String
  deriving DecidableEq

/-- Takes an address apart. The credentials end at the first `:` and the first `@` after the scheme,
the virtual host begins after the last `/`, the port after the last `:` before it. The host and the
port stand for themselves, all else is percent-decoded. -/
def Address.ofText? (text : String) : Option Address := do
  let rest ← "amqp://".toList.isPrefixOf? text.toList
  let (user, rest) ← splitFirst ':' rest
  let (password, rest) ← splitFirst '@' rest
  let (place, vhost) ← splitLast '/' rest
  let (host, port) ← splitLast ':' place
  return {
    user := ← Percent.decode (String.ofList user)
    password := ← Percent.decode (String.ofList password)
    host := String.ofList host
    port := String.ofList port
    vhost := ← Percent.decode (String.ofList vhost) }

/-- A virtual host loses the slash it begins with, unless it is only that. -/
theorem vhostName_spec (s : Settings) :
    (s.vhost = "/" ++ s.vhostName ∧ s.vhostName ≠ "") ∨
      (s.vhost = s.vhostName ∧ (s.vhost = "/" ∨ s.vhost.toList.head? ≠ some '/')) := by
  unfold vhostName
  split
  case h_1 c rest named =>
    left
    refine ⟨String.toList_injective ?_, fun h => ?_⟩
    · simp [named]
    · simpa using congrArg String.toList h
  case h_2 other =>
    right
    refine ⟨String.ofList_toList.symm, ?_⟩
    by_cases slash : s.vhost.toList.head? = some '/'
    · left
      obtain ⟨rest, cons⟩ := List.head?_eq_some_iff.mp slash
      cases rest with
      | nil => exact String.toList_injective cons
      | cons c rest => exact absurd cons (other c rest)
    · exact Or.inr slash

/-- No colon stands in a port, so that the last one before the virtual host ends the host. -/
theorem colon_notMem_port (n : Int) : ':' ∉ (toString n).toList := by
  have digits (m : Nat) : ':' ∉ m.repr.toList := by
    rw [Nat.toList_repr]
    exact fun mem => absurd (Json.digits_toDigits m _ mem) (by decide)
  rw [Int.toString_eq_repr, Int.repr_eq_if]
  split
  · exact digits _
  · simpa using digits _

/-- The parts of an address are what it has been built from. -/
theorem ofText?_address (s : Settings) (user password : String) :
    Address.ofText? (s.address user password) = some {
      user, password, host := s.host, port := toString s.port, vhost := s.vhostName } := by
  have starred : Percent.Plain fun b => Percent.isUnreserved b || b == 42 :=
    Percent.plain_isUnreserved.or Percent.plain_star
  have afterUser := Percent.not_mem_encodeWith starred user (c := ':') (by decide)
  have afterPassword := Percent.not_mem_encodeWith starred password (c := '@') (by decide)
  have beforeVhost :=
    Percent.not_mem_encodeWith Percent.plain_isUnreserved s.vhostName (c := '/') (by decide)
  have text : (s.address user password).toList = "amqp://".toList ++
      ((Percent.encodeKeepingStar user).toList ++ ':' ::
        ((Percent.encodeKeepingStar password).toList ++ '@' ::
          ((s.host.toList ++ ':' :: (toString s.port).toList) ++ '/' ::
            (Percent.encode s.vhostName).toList))) := by
    delta address
    simp
  have scheme (rest : List Char) :
      "amqp://".toList.isPrefixOf? ("amqp://".toList ++ rest) = some rest := rfl
  simp only [Address.ofText?, text, scheme, Percent.encodeKeepingStar, Percent.encode,
    splitFirst_append afterUser, splitFirst_append afterPassword, splitLast_append beforeVhost,
    splitLast_append (colon_notMem_port s.port), Option.bind_eq_bind, Option.bind_some,
    String.ofList_toList, Percent.decode_encodeWith starred,
    Percent.decode_encodeWith Percent.plain_isUnreserved]
  rfl

/-- An address loses nothing about where and as whom to connect. Its parts, percent-decoded, are the
user, the password, the host, the port and the virtual host of the settings, the last without a
slash at its beginning unless it is only that; and settings have the same address exactly if they
agree on these. -/
theorem url_parts (s : Settings) :
    Address.ofText? s.url = some {
        user := s.user, password := s.password, host := s.host, port := toString s.port,
        vhost := s.vhostName } ∧
      ((s.vhost = "/" ++ s.vhostName ∧ s.vhostName ≠ "") ∨
        (s.vhost = s.vhostName ∧ (s.vhost = "/" ∨ s.vhost.toList.head? ≠ some '/'))) ∧
      ∀ t : Settings, s.url = t.url ↔
        s.user = t.user ∧ s.password = t.password ∧ s.host = t.host ∧ s.port = t.port ∧
          s.vhostName = t.vhostName := by
  refine ⟨ofText?_address s s.user s.password, vhostName_spec s, fun t => ⟨fun same => ?_, ?_⟩⟩
  · have parts := ofText?_address s s.user s.password
    rw [show s.address s.user s.password = t.address t.user t.password from same,
      ofText?_address t] at parts
    obtain ⟨user, password, host, port, vhost⟩ := Address.mk.inj (Option.some.inj parts)
    have port := Int.repr_inj.mp port
    exact ⟨user.symm, password.symm, host.symm, port.symm, vhost.symm⟩
  · rintro ⟨user, password, host, port, vhost⟩
    delta url address
    rw [user, password, host, port, vhost]

end Settings

end BrokerClient
