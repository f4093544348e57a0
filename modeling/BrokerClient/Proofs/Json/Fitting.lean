import BrokerClient.Proofs.Json.Numbers

/-!
# What a JSON reader gives

Not every value can be read: an integer has no more digits than the reader puts up with, a container
that is not empty lies no deeper than it allows, and the names of an object are distinct. The three
readers call each other with one unit of fuel less, so what they give is bounded for all three
together, by induction on the fuel.

## Main definitions

* `Json.Fits` — the values that a reader can give at a depth.

## Main results

* `Json.sound` — what the readers give fits.
* `Json.fits_of_ofBytes?` — the value of a text fits.
-/

namespace BrokerClient.Json

open Number

/-- The values that a reader can give at a depth: no integer has too many digits, no container lies
too deep, and the names of an object are distinct. -/
inductive Fits (limits : Limits) : ℕ → Json → Prop
  | null {depth : ℕ} : Fits limits depth .null
  | bool {depth : ℕ} (b : Bool) : Fits limits depth (.bool b)
  | int {depth : ℕ} {n : ℤ} (short : digitCount n.natAbs ≤ limits.digits) :
      Fits limits depth (.int n)
  | float {depth : ℕ} (x : Float) : Fits limits depth (.float x)
  | str {depth : ℕ} (s : String) : Fits limits depth (.str s)
  | emptyArr {depth : ℕ} : Fits limits depth (.arr [])
  | arr {depth : ℕ} {items : List Json} (values : ∀ v ∈ items, Fits limits depth v) :
      Fits limits (depth + 1) (.arr items)
  | emptyObj {depth : ℕ} : Fits limits depth (.obj [])
  | obj {depth : ℕ} {members : List (String × Json)} (names : (members.map Prod.fst).Nodup)
      (values : ∀ m ∈ members, Fits limits depth m.2) : Fits limits (depth + 1) (.obj members)

variable {limits : Limits} {fuel depth : ℕ} {negative : Bool} {cs rest : List Char} {v : Json}

/-- Members with distinct names, each with a value that fits. -/
structure FitsMembers (limits : Limits) (depth : ℕ) (ms : List (String × Json)) : Prop where
  names : (ms.map Prod.fst).Nodup
  values : ∀ m ∈ ms, Fits limits depth m.2

theorem FitsMembers.nil : FitsMembers limits depth [] :=
  ⟨List.nodup_nil, by simp⟩

theorem map_fst_setMember (name : String) (v : Json) (ms : List (String × Json)) :
    (setMember name v ms).map Prod.fst =
      if name ∈ ms.map Prod.fst then ms.map Prod.fst else ms.map Prod.fst ++ [name] := by
  induction ms with
  | nil => rfl
  | cons m ms ih =>
    obtain ⟨other, w⟩ := m
    by_cases same : other = name
    · subst same
      simp [setMember]
    · have differ : name ≠ other := fun h => same h.symm
      simp only [setMember, beq_iff_eq, same, if_false, List.map_cons, ih, List.mem_cons, differ,
        false_or]
      split <;> simp

theorem mem_setMember {name : String} {m : String × Json} {ms : List (String × Json)}
    (h : m ∈ setMember name v ms) : m = (name, v) ∨ m ∈ ms := by
  induction ms with
  | nil => simpa [setMember] using h
  | cons first ms ih =>
    obtain ⟨other, w⟩ := first
    by_cases same : other = name
    · subst same
      rcases List.mem_cons.mp (by simpa [setMember] using h) with new | old
      · exact .inl new
      · exact .inr (List.mem_cons_of_mem _ old)
    · rcases List.mem_cons.mp (by simpa [setMember, same] using h) with first | later
      · exact .inr (by simp [first])
      · exact (ih later).imp_right (List.mem_cons_of_mem _)

/-- A member that is found is one of the members. -/
theorem mem_of_member? {name : String} {ms : List (String × Json)}
    (h : member? name ms = some v) : (name, v) ∈ ms := by
  induction ms with
  | nil => cases h
  | cons m ms ih =>
    obtain ⟨other, w⟩ := m
    by_cases same : other = name
    · have value : w = v := by simpa [member?, same] using h
      rw [same, value]
      exact List.mem_cons_self
    · exact List.mem_cons_of_mem _ (ih (by simpa [member?, same] using h))

/-- Setting a member keeps the names distinct. -/
theorem FitsMembers.set {ms : List (String × Json)} (name : String)
    (h : FitsMembers limits depth ms) (fits : Fits limits depth v) :
    FitsMembers limits depth (setMember name v ms) where
  names := by
    rw [map_fst_setMember]
    split
    · exact h.names
    · rename_i new
      exact h.names.append (by simp) (by simpa using new)
  values m hm := by
    rcases mem_setMember hm with rfl | old
    · exact fits
    · exact h.values m old

theorem digits_takeWhile (cs : List Char) : Digits (cs.takeWhile isDigit) :=
  List.all_eq_true.mp List.all_takeWhile

theorem fits_of_unsigned (h : unsigned limits negative cs = some (v, rest)) :
    Fits limits depth v := by
  simp only [unsigned] at h
  split at h
  · cases h
  · rename_i leads
    have nonempty : cs.takeWhile isDigit ≠ [] := fun none => leads (by simp [none])
    simp only [Option.bind_eq_bind, Option.bind_eq_some_iff] at h
    obtain ⟨⟨hasFraction, fraction, after⟩, -, ⟨hasExponent, exponent, behind⟩, -, h⟩ := h
    split at h
    · cases h
      exact .float _
    · split at h
      · cases h
      · rename_i short
        have count := digitCount_digitsValue_le (digits_takeWhile cs) nonempty
        cases h
        refine .int ?_
        split <;> simp <;> omega

theorem eq_of_map {w : Json} {o : Option (List Char)}
    (h : (o.map fun r => (w, r)) = some (v, rest)) : v = w := by
  obtain ⟨r, -, h⟩ := Option.map_eq_some_iff.mp h
  cases h
  rfl

theorem fits_of_number (h : number limits cs = some (v, rest)) : Fits limits depth v := by
  unfold number at h
  split at h
  · obtain rfl := eq_of_map h
    exact .float _
  · exact fits_of_unsigned h
  · obtain rfl := eq_of_map h
    exact .float _
  · obtain rfl := eq_of_map h
    exact .float _
  · exact fits_of_unsigned h

/-- What the readers give with some fuel fits. -/
structure Sound (limits : Limits) (fuel : ℕ) : Prop where
  value {depth : ℕ} {cs rest : List Char} {v : Json} :
    value limits fuel depth cs = some (v, rest) → Fits limits depth v
  items {depth : ℕ} {cs rest : List Char} {vs : List Json} :
    items limits fuel depth cs = some (vs, rest) → ∀ v ∈ vs, Fits limits depth v
  members {depth : ℕ} {cs rest : List Char} {seen ms : List (String × Json)} :
    members limits fuel depth seen cs = some (ms, rest) → FitsMembers limits depth seen →
      FitsMembers limits depth ms

theorem Sound.value_succ (s : Sound limits fuel)
    (h : Json.value limits (fuel + 1) depth cs = some (v, rest)) : Fits limits depth v := by
  rw [Json.value.eq_def] at h
  simp only at h
  split at h
  · split at h
    · cases h
      exact .emptyArr
    · cases h
    · obtain ⟨⟨vs, r⟩, read, h⟩ := Option.map_eq_some_iff.mp h
      cases h
      exact .arr (s.items read)
  · split at h
    · cases h
      exact .emptyObj
    · cases h
    · obtain ⟨⟨ms, r⟩, read, h⟩ := Option.map_eq_some_iff.mp h
      cases h
      obtain ⟨names, values⟩ := s.members read .nil
      exact .obj names values
  · obtain ⟨r, -, h⟩ := Option.map_eq_some_iff.mp h
    cases h
    exact .str _
  · obtain rfl := eq_of_map h
    exact .bool _
  · obtain rfl := eq_of_map h
    exact .bool _
  · obtain rfl := eq_of_map h
    exact .null
  · exact fits_of_number h

theorem Sound.items_succ (s : Sound limits fuel) {vs : List Json}
    (h : Json.items limits (fuel + 1) depth cs = some (vs, rest)) :
    ∀ v ∈ vs, Fits limits depth v := by
  simp only [Json.items, Option.bind_eq_bind, Option.bind_eq_some_iff] at h
  obtain ⟨⟨v, after⟩, first, h⟩ := h
  have fits := s.value first
  split at h
  · obtain ⟨⟨more, r⟩, later, h⟩ := Option.bind_eq_some_iff.mp h
    cases h
    exact List.forall_mem_cons.mpr ⟨fits, s.items later⟩
  · cases h
    simpa using fits
  · cases h

theorem Sound.members_succ (s : Sound limits fuel) {seen ms : List (String × Json)}
    (h : Json.members limits (fuel + 1) depth seen cs = some (ms, rest))
    (fits : FitsMembers limits depth seen) : FitsMembers limits depth ms := by
  simp only [Json.members] at h
  split at h
  · simp only [Option.bind_eq_bind, Option.bind_eq_some_iff] at h
    obtain ⟨⟨name, after⟩, -, h⟩ := h
    simp only at h
    split at h
    · simp only [Option.bind_eq_some_iff] at h
      obtain ⟨⟨v, after⟩, read, h⟩ := h
      have set := fits.set name (s.value read)
      simp only at h
      split at h
      · exact s.members h set
      · cases h
        exact set
      · cases h
    · cases h
  · cases h

theorem sound (limits : Limits) (fuel : ℕ) : Sound limits fuel := by
  induction fuel with
  | zero => exact ⟨nofun, nofun, nofun⟩
  | succ fuel ih => exact ⟨ih.value_succ, ih.items_succ, ih.members_succ⟩

/-- What is read from a text fits. -/
theorem fits_of_ofChars? (h : ofChars? limits cs = some v) : Fits limits limits.depth v := by
  simp only [ofChars?, Option.bind_eq_bind, Option.bind_eq_some_iff] at h
  obtain ⟨⟨w, rest⟩, read, h⟩ := h
  split at h
  · cases h
    exact (sound limits _).value read
  · cases h

/-- The value of a text fits. -/
theorem fits_of_ofBytes? {bytes : ByteArray} (h : ofBytes? limits bytes = some v) :
    Fits limits limits.depth v := by
  obtain ⟨s, -, read⟩ := Option.bind_eq_some_iff.mp h
  exact fits_of_ofChars? read

end BrokerClient.Json
