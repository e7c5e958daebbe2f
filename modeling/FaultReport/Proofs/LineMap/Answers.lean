import FaultReport.LineMap.Search

/-!
# What a search promises

The outcome of a search answers it when a key that is found stands at the place found, and a
key that is absent belongs at the place named: all entries before that place are before the
key, and all others after it (`Answers`). On an increasing array binary search keeps this
promise (`search_answers`).

Line maps need no more than the promise. In an increasing array the last entry that is not
after the key has one place, and every outcome that answers the search has that place as its
floor (`Answers.floor_eq`), however the search went. If the first entry is not after the key,
there is such an entry, and no outcome names the place before all entries
(`Answers.exists_floor`, `Answers.ne_absent_zero`).
-/

set_option autoImplicit false

namespace FaultReport.LineMap

/-- The entries of an array go up strictly. -/
def Increasing (entries : Array Nat) : Prop := entries.toList.Pairwise (· < ·)

theorem Increasing.lt_of_lt {entries : Array Nat} (increasing : Increasing entries)
    {place later entry other : Nat} (order : place < later) (here : entries[place]? = some entry)
    (there : entries[later]? = some other) : entry < other := by
  obtain ⟨inside, rfl⟩ := Array.getElem?_eq_some_iff.mp here
  obtain ⟨inside', rfl⟩ := Array.getElem?_eq_some_iff.mp there
  exact List.pairwise_iff_getElem.mp increasing place later inside inside' order

theorem Increasing.le_of_le {entries : Array Nat} (increasing : Increasing entries)
    {place later entry other : Nat} (order : place ≤ later) (here : entries[place]? = some entry)
    (there : entries[later]? = some other) : entry ≤ other := by
  rcases Nat.lt_or_eq_of_le order with order | rfl
  · exact Nat.le_of_lt (increasing.lt_of_lt order here there)
  · exact Nat.le_of_eq (Option.some.inj (here.symm.trans there))

/-- Numbers that go up strictly are at least as large as their places. -/
theorem Increasing.place_le {entries : Array Nat} (increasing : Increasing entries)
    {place entry : Nat} (here : entries[place]? = some entry) : place ≤ entry := by
  induction place generalizing entry with
  | zero => exact Nat.zero_le entry
  | succ place ih =>
      obtain ⟨inside, _⟩ := Array.getElem?_eq_some_iff.mp here
      have previous : entries[place]? = some entries[place] :=
        Array.getElem?_eq_getElem (Nat.lt_of_succ_lt inside)
      have less := increasing.lt_of_lt (Nat.lt_succ_self place) previous here
      exact Nat.lt_of_le_of_lt (ih previous) less

/-! ## The promise -/

/-- An outcome answers the search for `key`. -/
def Probe.Answers (entries : Array Nat) (key : Nat) : Probe → Prop
  | .found place => entries[place]? = some key
  | .absent place => place ≤ entries.size ∧ ∀ index entry, entries[index]? = some entry →
      (index < place → entry < key) ∧ (place ≤ index → key < entry)

/-- A search answers, if all entries before its range are before the key, and all entries
past its range after it. -/
theorem searchBetween_answers {entries : Array Nat} (increasing : Increasing entries)
    (key low high : Nat) (inside : high ≤ entries.size) (range : low ≤ high)
    (before : ∀ place entry, place < low → entries[place]? = some entry → entry < key)
    (after : ∀ place entry, high ≤ place → entries[place]? = some entry → key < entry) :
    (searchBetween entries key low high inside).Answers entries key := by
  fun_induction searchBetween entries key low high inside with
  | case1 low high inside nonempty middle below entry equal =>
      exact Array.getElem?_eq_some_iff.mpr ⟨by omega, equal⟩
  | case2 low high inside nonempty middle below entry different less ih =>
      have here : entries[middle]? = some entry := Array.getElem?_eq_getElem _
      -- The array goes up, so everything up to the middle is before the key as well.
      refine ih (by omega) ?_ after
      intro place other early there
      exact Nat.lt_of_le_of_lt (increasing.le_of_le (by omega) there here) less
  | case3 low high inside nonempty middle below entry different notLess ih =>
      have here : entries[middle]? = some entry := Array.getElem?_eq_getElem _
      refine ih (by omega) before ?_
      intro place other late there
      have atLeast := increasing.le_of_le late here there
      omega
  | case4 low high inside empty =>
      refine ⟨by omega, ?_⟩
      intro index entry here
      exact ⟨fun early => before index entry early here,
        fun late => after index entry (by omega) here⟩

/-- **Binary search answers, on every increasing array.** -/
theorem search_answers {entries : Array Nat} (increasing : Increasing entries) (key : Nat) :
    (search entries key).Answers entries key := by
  refine searchBetween_answers increasing key 0 entries.size _ (Nat.zero_le _) ?_ ?_
  · intro place entry early _
    exact absurd early (Nat.not_lt_zero place)
  · intro place entry late here
    obtain ⟨inside, _⟩ := Array.getElem?_eq_some_iff.mp here
    exact absurd inside (Nat.not_lt_of_le late)

/-! ## The floor -/

/-- **Every answer has the last entry that is not after the key as its floor.** -/
theorem Probe.Answers.floor_eq {entries : Array Nat} {key : Nat} {probe : Probe}
    (answers : probe.Answers entries key) (increasing : Increasing entries) {place entry : Nat}
    (here : entries[place]? = some entry) (reached : entry ≤ key)
    (last : ∀ next, entries[place + 1]? = some next → key < next) : probe.floor = place := by
  -- No place past `place` holds an entry up to the key.
  have past : ∀ later other, place < later → entries[later]? = some other → key < other := by
    intro later other order there
    obtain ⟨inside, _⟩ := Array.getElem?_eq_some_iff.mp there
    have next : entries[place + 1]? = some entries[place + 1] := Array.getElem?_eq_getElem _
    exact Nat.lt_of_lt_of_le (last _ next) (increasing.le_of_le order next there)
  cases probe with
  | found found =>
      change entries[found]? = some key at answers
      rcases Nat.lt_trichotomy found place with earlier | same | later
      · have less := increasing.lt_of_lt earlier answers here
        omega
      · exact same
      · exact absurd (past found key later answers) (Nat.lt_irrefl key)
  | absent absent =>
      obtain ⟨inside, sides⟩ := answers
      have passed : place < absent :=
        Nat.lt_of_not_le fun late => Nat.not_lt_of_le reached ((sides place entry here).2 late)
      have notLater : ¬ place + 1 < absent := by
        intro later
        have next : entries[place + 1]? = some entries[place + 1] := Array.getElem?_eq_getElem _
        have less := (sides _ _ next).1 later
        have more := last _ next
        omega
      simp only [floor]
      omega

section Reached

variable {entries : Array Nat} {key first : Nat} {probe : Probe}
  (answers : probe.Answers entries key) (begins : entries[0]? = some first) (reached : first ≤ key)
include answers begins reached

/-- A key that the first entry is not after is never said to belong before all entries. -/
theorem Probe.Answers.ne_absent_zero : probe ≠ .absent 0 := by
  rintro rfl
  obtain ⟨_, sides⟩ := answers
  exact Nat.not_lt_of_le reached ((sides 0 first begins).2 (Nat.le_refl 0))

/-- **The floor of every answer is an entry that is not after the key**, if there is one. -/
theorem Probe.Answers.exists_floor :
    ∃ entry, entries[probe.floor]? = some entry ∧ entry ≤ key := by
  have notBefore := answers.ne_absent_zero begins reached
  cases probe with
  | found place => exact ⟨key, answers, Nat.le_refl key⟩
  | absent place =>
      obtain ⟨inside, sides⟩ := answers
      have positive : place ≠ 0 := fun zero => notBefore (congrArg Probe.absent zero)
      have here : entries[place - 1]? = some entries[place - 1] :=
        Array.getElem?_eq_getElem (by omega)
      exact ⟨_, here, Nat.le_of_lt ((sides _ _ here).1 (by omega))⟩

end Reached

end FaultReport.LineMap
