import BrokerClient.Proofs.Json.Fitting
import BrokerClient.Proofs.Json.Strings
import Mathlib.Data.List.DropRight

/-!
# Reading JSON text back

A value that a reader can give is read from its own text, up to one thing: a double that is no
number is written as null and read so. Nothing else is lost, and writing the value that is read
gives the same text again. The induction is on the value and has one step for each kind of
container, with the text that may follow and the fuel left open.

## Main definitions

* `Json.ReadsBack` — values that are read from their text, whatever comes after it.
* `Json.allFinite` — whether all doubles of a value are numbers.

## Main results

* `Json.readsBack` — a value that a reader can give is read from its text.
* `Json.chars_finitePart` — what is read has the same text.
* `Json.ofBytes?_toUTF8` — the value of the UTF-8 form of a value's text.
-/

namespace BrokerClient.Json

open Number

variable {limits : Limits} {fuel depth : ℕ} {cs rest : List Char} {v : Json}

/-! ### White space in front -/

theorem skipSpace_skipSpace (cs : List Char) : skipSpace (skipSpace cs) = skipSpace cs :=
  List.dropWhile_idempotent isSpace cs

theorem skipSpace_cons {c : Char} (h : isSpace c = false) (cs : List Char) :
    skipSpace (c :: cs) = c :: cs := by
  simp [skipSpace, h]

/-- What is read as a number begins with no white space and no closing bracket. -/
theorem begins_of_number {r : Json × List Char} (h : number limits cs = some r) :
    ∃ c ds, cs = c :: ds ∧ isSpace c = false ∧ c ≠ ']' := by
  have plain {negative : Bool} {cs : List Char} (h : unsigned limits negative cs = some r) :
      ∃ c ds, cs = c :: ds ∧ isSpace c = false ∧ c ≠ ']' := by
    obtain ⟨c, ds, rfl, digit⟩ := exists_digit_of_unsigned h
    refine ⟨c, ds, rfl, ?_, ne_of_isDigit digit rfl⟩
    simp [isSpace, ne_of_isDigit digit (d := ' ') rfl, ne_of_isDigit digit (d := '\n') rfl,
      ne_of_isDigit digit (d := '\t') rfl, ne_of_isDigit digit (d := '\r') rfl]
  unfold number at h
  split at h
  · exact ⟨_, _, rfl, rfl, by decide⟩
  · exact ⟨_, _, rfl, rfl, by decide⟩
  · exact ⟨_, _, rfl, rfl, by decide⟩
  · exact ⟨_, _, rfl, rfl, by decide⟩
  · exact plain h

/-- What is read as a value begins with no white space and no closing bracket. -/
theorem begins_of_value {r : Json × List Char} (h : value limits fuel depth cs = some r) :
    ∃ c ds, cs = c :: ds ∧ isSpace c = false ∧ c ≠ ']' := by
  cases fuel with
  | zero => cases h
  | succ fuel =>
    rw [value.eq_def] at h
    simp only at h
    split at h
    case h_7 => exact begins_of_number h
    all_goals exact ⟨_, _, rfl, rfl, by decide⟩

theorem skipSpace_of_value {r : Json × List Char} (h : value limits fuel depth cs = some r) :
    skipSpace cs = cs := by
  obtain ⟨c, ds, rfl, space, -⟩ := begins_of_value h
  exact skipSpace_cons space ds

/-! ### Reading containers -/

/-- Items that are read up to their closing bracket make a list. -/
theorem value_arr {vs : List Json} (h : items limits fuel depth cs = some (vs, rest)) :
    value limits (fuel + 1) (depth + 1) ('[' :: cs) = some (.arr vs, rest) := by
  have same : items limits fuel depth (skipSpace cs) = items limits fuel depth cs := by
    cases fuel with
    | zero => rfl
    | succ fuel => simp only [items, skipSpace_skipSpace]
  have opens : ∃ c ds, skipSpace cs = c :: ds ∧ c ≠ ']' := by
    cases fuel with
    | zero => cases h
    | succ fuel =>
      simp only [items, Option.bind_eq_bind, Option.bind_eq_some_iff] at h
      obtain ⟨r, first, -⟩ := h
      obtain ⟨c, ds, eq, -, bracket⟩ := begins_of_value first
      exact ⟨c, ds, eq, bracket⟩
  obtain ⟨c, ds, eq, bracket⟩ := opens
  rw [← same, eq] at h
  rw [value.eq_def]
  simp only [eq]
  split
  · rename_i close
    exact absurd (List.cons.inj close).1 bracket
  · rename_i none _
    cases none
  · rename_i inner _
    cases inner
    rw [h]
    rfl

/-- Members that are read up to their closing brace make an object. -/
theorem value_obj {ms : List (String × Json)}
    (h : members limits fuel depth [] cs = some (ms, rest)) :
    value limits (fuel + 1) (depth + 1) ('{' :: cs) = some (.obj ms, rest) := by
  have same : members limits fuel depth [] (skipSpace cs) = members limits fuel depth [] cs := by
    cases fuel with
    | zero => rfl
    | succ fuel => simp only [members, skipSpace_skipSpace]
  have opens : ∃ ds, skipSpace cs = '"' :: ds := by
    cases fuel with
    | zero => cases h
    | succ fuel =>
      simp only [members] at h
      split at h
      · exact ⟨_, ‹_›⟩
      · cases h
  obtain ⟨ds, eq⟩ := opens
  rw [← same, eq] at h
  rw [value.eq_def]
  simp [eq, h]

/-! ### Reading what is written -/

/-- A number is read by the reader for numbers. -/
theorem value_of_number {r : Json × List Char} (h : number limits cs = some r) :
    value limits (fuel + 1) depth cs = some r := by
  rw [value.eq_def]
  simp only
  split
  case h_7 => exact h
  all_goals cases h

theorem breaks_nil : Breaks [] :=
  nofun

theorem breaks_cons {c : Char} (h : isDigit c = false ∧ c ≠ '.' ∧ c ≠ 'e' ∧ c ≠ 'E')
    (cs : List Char) : Breaks (c :: cs) := fun d hd => by
  cases hd
  exact h

theorem itemChars_cons_cons (v w : Json) (vs : List Json) :
    itemChars (v :: w :: vs) = chars v ++ ',' :: itemChars (w :: vs) := by
  rw [itemChars]
  simp

theorem memberChars_cons_cons (name : String) (v : Json) (m : String × Json)
    (ms : List (String × Json)) :
    memberChars ((name, v) :: m :: ms) =
      stringChars name ++ ':' :: (chars v ++ ',' :: memberChars (m :: ms)) := by
  rw [memberChars]
  simp

/-- A value that is read back as its finite part, whatever comes after it and with any fuel above
the length of its text. -/
def ReadsBack (limits : Limits) (depth : ℕ) (v : Json) : Prop :=
  ∀ ⦃fuel : ℕ⦄ ⦃rest : List Char⦄, Breaks rest → (chars v).length < fuel →
    value limits fuel depth (chars v ++ rest) = some (finitePart v, rest)

theorem ReadsBack.of_succ (h : ∀ (fuel : ℕ) (rest : List Char), Breaks rest →
    (chars v).length ≤ fuel →
      value limits (fuel + 1) depth (chars v ++ rest) = some (finitePart v, rest)) :
    ReadsBack limits depth v := by
  intro fuel rest breaks enough
  obtain ⟨fuel, rfl⟩ := Nat.exists_eq_add_one_of_ne_zero (Nat.ne_zero_of_lt enough)
  exact h fuel rest breaks (Nat.le_of_lt_succ enough)

/-- The last item of a list. -/
theorem items_last (h : value limits fuel depth cs = some (v, ']' :: rest)) :
    items limits (fuel + 1) depth cs = some ([v], rest) := by
  have bracket := skipSpace_cons (c := ']') (by decide) rest
  simp [items, skipSpace_of_value h, h, bracket]

/-- An item of a list with more items after it. -/
theorem items_more {vs : List Json} {more : List Char}
    (h : value limits fuel depth cs = some (v, ',' :: more))
    (later : items limits fuel depth more = some (vs, rest)) :
    items limits (fuel + 1) depth cs = some (v :: vs, rest) := by
  have comma := skipSpace_cons (c := ',') (by decide) more
  simp [items, skipSpace_of_value h, h, comma, later]

/-- A list's items are read back if each of them is. -/
theorem items_itemChars {vs : List Json} (h : ∀ v ∈ vs, ReadsBack limits depth v)
    (nonempty : vs ≠ []) (enough : (itemChars vs).length < fuel) :
    items limits fuel depth (itemChars vs ++ rest) = some (finiteItems vs, rest) := by
  induction vs generalizing fuel with
  | nil => exact absurd rfl nonempty
  | cons v vs ih =>
    obtain ⟨fuel, rfl⟩ := Nat.exists_eq_add_one_of_ne_zero (Nat.ne_zero_of_lt enough)
    have first := h v List.mem_cons_self
    cases vs with
    | nil =>
      simp only [itemChars, List.length_append, List.length_singleton] at enough
      rw [itemChars, List.append_assoc]
      exact items_last (first (breaks_cons (by decide) rest) (by omega))
    | cons w vs =>
      rw [itemChars_cons_cons, List.length_append, List.length_cons] at enough
      rw [itemChars_cons_cons, List.append_assoc]
      exact items_more (first (breaks_cons (by decide) _) (by omega))
        (ih (fun u hu => h u (List.mem_cons_of_mem _ hu)) (by simp) (by omega))

section

variable {seen ms : List (String × Json)} {name : String}

/-- The last member of an object. -/
theorem members_last (h : value limits fuel depth cs = some (v, '}' :: rest)) :
    members limits (fuel + 1) depth seen (stringChars name ++ ':' :: cs) =
      some (setMember name v seen, rest) := by
  have quote := skipSpace_cons (c := '"') (by decide) (tailChars name ++ ':' :: cs)
  have colon := skipSpace_cons (c := ':') (by decide) cs
  have brace := skipSpace_cons (c := '}') (by decide) rest
  have spelled := stringBody_tailChars name (':' :: cs)
  simp only [members, stringChars_eq, List.cons_append, quote, spelled, colon,
    skipSpace_of_value h, h, brace, Option.bind_eq_bind, Option.bind_some]
  rfl

/-- A member of an object with more members after it. -/
theorem members_more {more : List Char} (h : value limits fuel depth cs = some (v, ',' :: more))
    (later : members limits fuel depth (setMember name v seen) more = some (ms, rest)) :
    members limits (fuel + 1) depth seen (stringChars name ++ ':' :: cs) = some (ms, rest) := by
  have quote := skipSpace_cons (c := '"') (by decide) (tailChars name ++ ':' :: cs)
  have colon := skipSpace_cons (c := ':') (by decide) cs
  have comma := skipSpace_cons (c := ',') (by decide) more
  have spelled := stringBody_tailChars name (':' :: cs)
  simp only [members, stringChars_eq, List.cons_append, quote, spelled, colon,
    skipSpace_of_value h, h, comma, later, Option.bind_eq_bind, Option.bind_some]

/-- A new name comes last. -/
theorem setMember_of_notMem (h : name ∉ ms.map Prod.fst) :
    setMember name v ms = ms ++ [(name, v)] := by
  induction ms with
  | nil => rfl
  | cons m ms ih =>
    obtain ⟨other, w⟩ := m
    simp only [List.map_cons, List.mem_cons, not_or] at h
    simp [setMember, Ne.symm h.1, ih h.2]

/-- An object's members are read back if their values are and their names are distinct. -/
theorem members_memberChars (h : ∀ m ∈ ms, ReadsBack limits depth m.2) (nonempty : ms ≠ [])
    (names : (seen.map Prod.fst ++ ms.map Prod.fst).Nodup)
    (enough : (memberChars ms).length < fuel) :
    members limits fuel depth seen (memberChars ms ++ rest) =
      some (seen ++ finiteMembers ms, rest) := by
  induction ms generalizing fuel seen with
  | nil => exact absurd rfl nonempty
  | cons m ms ih =>
    obtain ⟨name, v⟩ := m
    obtain ⟨fuel, rfl⟩ := Nat.exists_eq_add_one_of_ne_zero (Nat.ne_zero_of_lt enough)
    have first : ReadsBack limits depth v := h (name, v) List.mem_cons_self
    have new : name ∉ seen.map Prod.fst := fun old =>
      List.disjoint_of_nodup_append names old List.mem_cons_self
    have set := setMember_of_notMem (v := finitePart v) new
    cases ms with
    | nil =>
      simp only [memberChars, List.length_append, List.length_cons, List.length_nil] at enough
      rw [memberChars, List.append_assoc, List.cons_append, List.append_assoc, finiteMembers,
        finiteMembers, ← set]
      exact members_last (first (breaks_cons (by decide) rest) (by omega))
    | cons m ms =>
      rw [memberChars_cons_cons, List.length_append, List.length_cons, List.length_append,
        List.length_cons] at enough
      rw [memberChars_cons_cons, List.append_assoc, List.cons_append, List.append_assoc,
        List.cons_append]
      refine members_more (first (breaks_cons (by decide) _) (by omega)) ?_
      rw [set, finiteMembers, ih (fun w hw => h w (List.mem_cons_of_mem _ hw)) (by simp) ?_
        (by omega)]
      · simp
      · simpa using names

end

theorem chars_float_of_finite {x : Float} (h : isFinite x) :
    chars (.float x) = (Layout.json.float x).toList := by
  simp [chars, floatText, h]

theorem chars_float_of_not_finite {x : Float} (h : ¬ isFinite x) :
    chars (.float x) = chars .null := by
  simp [chars, floatText, h]

theorem readsBack_float (x : Float) : ReadsBack limits depth (.float x) := by
  refine .of_succ fun fuel rest breaks _ => ?_
  by_cases finite : isFinite x
  · rw [chars_float_of_finite finite, finitePart, if_pos finite]
    exact value_of_number (number_float finite breaks)
  · rw [chars_float_of_not_finite finite, finitePart, if_neg finite]
    rfl

theorem readsBack_str (s : String) : ReadsBack limits depth (.str s) := by
  refine .of_succ fun fuel rest _ _ => ?_
  rw [chars, stringChars_eq, List.cons_append, value, stringBody_tailChars s rest]
  rfl

theorem readsBack_arr {vs : List Json} (h : ∀ v ∈ vs, ReadsBack limits depth v) :
    ReadsBack limits (depth + 1) (.arr vs) := by
  refine .of_succ fun fuel rest _ enough => ?_
  by_cases empty : vs = []
  · subst empty
    rfl
  · rw [chars, List.length_cons] at enough
    exact value_arr (items_itemChars h empty (by omega))

theorem readsBack_obj {ms : List (String × Json)} (names : (ms.map Prod.fst).Nodup)
    (h : ∀ m ∈ ms, ReadsBack limits depth m.2) : ReadsBack limits (depth + 1) (.obj ms) := by
  refine .of_succ fun fuel rest _ enough => ?_
  by_cases empty : ms = []
  · subst empty
    rfl
  · rw [chars, List.length_cons] at enough
    exact value_obj (members_memberChars h empty (by simpa using names) (by omega))

/-- A value that a reader can give is read back as its finite part. -/
theorem readsBack (h : Fits limits depth v) : ReadsBack limits depth v := by
  induction h with
  | null | emptyArr | emptyObj => exact .of_succ fun _ _ _ _ => rfl
  | bool b => cases b <;> exact .of_succ fun _ _ _ _ => rfl
  | int short => exact .of_succ fun _ _ breaks _ => value_of_number (number_int short breaks)
  | float x => exact readsBack_float x
  | str s => exact readsBack_str s
  | arr _ ih => exact readsBack_arr ih
  | obj names _ ih => exact readsBack_obj names ih

/-- A value that fits is read from its text as its finite part. -/
theorem ofChars?_chars (h : Fits limits limits.depth v) :
    ofChars? limits (chars v) = some (finitePart v) := by
  have read := readsBack h breaks_nil (Nat.lt_add_one _)
  rw [List.append_nil] at read
  rw [ofChars?, skipSpace_of_value read, read]
  rfl

/-! ### The finite part -/

mutual

/-- The finite part of a value has the same text. -/
theorem chars_finitePart (v : Json) : chars (finitePart v) = chars v := by
  cases v with
  | float x =>
    unfold finitePart
    split
    · rfl
    · exact (chars_float_of_not_finite ‹_›).symm
  | arr items => rw [finitePart, chars, chars, itemChars_finiteItems items]
  | obj members => rw [finitePart, chars, chars, memberChars_finiteMembers members]
  | null | bool | int | str => rfl

theorem itemChars_finiteItems (vs : List Json) : itemChars (finiteItems vs) = itemChars vs := by
  match vs with
  | [] => rfl
  | [v] => rw [finiteItems, finiteItems, itemChars, itemChars, chars_finitePart v]
  | v :: w :: vs =>
    have later := itemChars_finiteItems (w :: vs)
    rw [finiteItems] at later ⊢
    rw [finiteItems, itemChars_cons_cons, itemChars_cons_cons, chars_finitePart v, later]

theorem memberChars_finiteMembers (ms : List (String × Json)) :
    memberChars (finiteMembers ms) = memberChars ms := by
  match ms with
  | [] => rfl
  | [(name, v)] => rw [finiteMembers, finiteMembers, memberChars, memberChars, chars_finitePart v]
  | (name, v) :: (other, w) :: ms =>
    have later := memberChars_finiteMembers ((other, w) :: ms)
    rw [finiteMembers] at later ⊢
    rw [finiteMembers, memberChars_cons_cons, memberChars_cons_cons, chars_finitePart v, later]

end

mutual

/-- Whether all doubles of a value are numbers. -/
def allFinite : Json → Bool
  | .float x => isFinite x
  | .arr items => allFiniteItems items
  | .obj members => allFiniteMembers members
  | _ => true

/-- Whether all doubles of a list of values are numbers. -/
def allFiniteItems : List Json → Bool
  | [] => true
  | v :: vs => allFinite v && allFiniteItems vs

/-- Whether all doubles of the values of an object are numbers. -/
def allFiniteMembers : List (String × Json) → Bool
  | [] => true
  | (_, v) :: ms => allFinite v && allFiniteMembers ms

end

mutual

/-- A value whose doubles are all numbers is its own finite part. -/
theorem finitePart_of_allFinite {v : Json} (h : allFinite v) : finitePart v = v := by
  cases v with
  | float x => exact if_pos h
  | arr items => rw [finitePart, finiteItems_of_allFinite h]
  | obj members => rw [finitePart, finiteMembers_of_allFinite h]
  | null | bool | int | str => rfl

theorem finiteItems_of_allFinite {vs : List Json} (h : allFiniteItems vs) :
    finiteItems vs = vs := by
  match vs with
  | [] => rfl
  | v :: vs =>
    obtain ⟨first, later⟩ := Bool.and_eq_true_iff.mp h
    rw [finiteItems, finitePart_of_allFinite first, finiteItems_of_allFinite later]

theorem finiteMembers_of_allFinite {ms : List (String × Json)} (h : allFiniteMembers ms) :
    finiteMembers ms = ms := by
  match ms with
  | [] => rfl
  | (name, v) :: ms =>
    obtain ⟨first, later⟩ := Bool.and_eq_true_iff.mp h
    rw [finiteMembers, finitePart_of_allFinite first, finiteMembers_of_allFinite later]

end

/-! ### Bytes -/

theorem fromUTF8?_toUTF8 (s : String) : String.fromUTF8? s.toUTF8 = some s := by
  simp only [String.fromUTF8?, String.toUTF8_eq_toByteArray, dif_pos s.isValidUTF8]
  rfl

/-- A value that fits is read from the UTF-8 form of its text as its finite part. -/
theorem ofBytes?_toUTF8 (h : Fits limits limits.depth v) :
    ofBytes? limits v.text.toUTF8 = some (finitePart v) := by
  rw [ofBytes?, fromUTF8?_toUTF8, Option.bind_some, ofText?, text, String.toList_ofList]
  exact ofChars?_chars h

end BrokerClient.Json
