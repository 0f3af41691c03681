import SearchQuery.Geo.Distance
import SearchQuery.Proofs.Decimal.Endings
import SearchQuery.Proofs.Decimal.One
import SearchQuery.Proofs.Text.Trimmed

/-!
# Texts of distances

A distance is a numeral with or without a unit behind it.  The names of some units end with those of
others, but a numeral never ends with a letter, so the longest name that a text ends with is the
only one that leaves a numeral in front of it (`Geo.Distance.meters_of_splits`).
-/

set_option autoImplicit false
namespace SearchQuery.Geo.Distance
open Decimal (isDigit EndsAsNumeral)

def IsLetter (c : Char) : Prop := 97 ≤ c.toNat ∧ c.toNat ≤ 122

theorem IsLetter.apart {c : Char} (h : IsLetter c) :
    isBlank c = false ∧ isDigit c = false ∧ c ≠ '.' := by
  obtain ⟨low, high⟩ := h
  refine ⟨isBlank_eq_false (by omega) (by omega), ?_, ?_⟩
  · have above : ¬ c ≤ '9' := by
      intro digit
      have : c.toNat ≤ 57 := digit
      omega
    simp [isDigit, above]
  · rintro rfl
    exact absurd low (by decide)

theorem isLetter_of_mem {u : String × Float} (known : u ∈ units) :
    ∀ c ∈ u.1.toList, IsLetter c := by
  have names : (units.map Prod.fst).all (fun name => name.toList.all fun c =>
      decide (97 ≤ c.toNat) && decide (c.toNat ≤ 122)) = true := by decide
  intro c hc
  have each := List.all_eq_true.1 (List.all_eq_true.1 names u.1 (List.mem_map_of_mem known)) c hc
  simpa [IsLetter] using each

theorem name_ne_nil {u : String × Float} (known : u ∈ units) : u.1.toList ≠ [] := by
  have names : ∀ name ∈ units.map Prod.fst, name.toList ≠ [] := by decide
  exact names u.1 (List.mem_map_of_mem known)

theorem eq_of_name {u v : String × Float} (known : u ∈ units) (known' : v ∈ units)
    (h : u.1 = v.1) : u = v := by
  have distinct : (units.map Prod.fst).Nodup := by decide
  exact List.inj_on_of_nodup_map distinct known known' h

theorem foldl_longest (us : List (String × Float)) (b : String × Float) :
    ∃ r ∈ b :: us, us.foldl (fun best u => match best with
        | some b => if b.1.length ≤ u.1.length then some u else best
        | none => some u) (some b) = some r ∧
      ∀ u ∈ b :: us, u.1.length ≤ r.1.length := by
  induction us generalizing b with
  | nil => exact ⟨b, List.mem_singleton.2 rfl, rfl, by simp⟩
  | cons u rest ih =>
    rw [List.foldl_cons]
    dsimp only
    split
    · rename_i longer
      obtain ⟨r, mem, result, most⟩ := ih u
      refine ⟨r, List.mem_cons_of_mem b mem, result, List.forall_mem_cons.2 ⟨?_, most⟩⟩
      exact Nat.le_trans longer (most u List.mem_cons_self)
    · rename_i shorter
      obtain ⟨r, mem, result, most⟩ := ih b
      obtain ⟨first, others⟩ := List.forall_mem_cons.1 most
      refine ⟨r, ?_, result, ?_⟩
      · rcases List.mem_cons.1 mem with rfl | mem
        · exact List.mem_cons_self
        · exact List.mem_cons_of_mem b (List.mem_cons_of_mem u mem)
      · refine List.forall_mem_cons.2 ⟨first, List.forall_mem_cons.2 ⟨?_, others⟩⟩
        omega

theorem mem_endsWith {cs : List Char} {u : String × Float} :
    u ∈ units.filter (endsWith cs) ↔ u ∈ units ∧ u.1.toList <:+ cs := by
  rw [List.mem_filter, endsWith, List.isSuffixOf_iff_suffix]

theorem longestUnit_cases (cs : List Char) :
    (longestUnit cs = none ∧ ∀ u ∈ units, ¬ u.1.toList <:+ cs) ∨
    ∃ r ∈ units, longestUnit cs = some r ∧ r.1.toList <:+ cs ∧
      ∀ u ∈ units, u.1.toList <:+ cs → u.1.length ≤ r.1.length := by
  unfold longestUnit
  cases ending : units.filter (endsWith cs) with
  | nil =>
    refine .inl ⟨rfl, fun u known suffix => ?_⟩
    have mem := mem_endsWith.2 ⟨known, suffix⟩
    rw [ending] at mem
    cases mem
  | cons b us =>
    obtain ⟨r, mem, result, most⟩ := foldl_longest us b
    rw [← ending] at mem most
    obtain ⟨known, suffix⟩ := mem_endsWith.1 mem
    exact .inr ⟨r, known, result, suffix, fun u known suffix =>
      most u (mem_endsWith.2 ⟨known, suffix⟩)⟩

/-- The ways to read a text as a numeral, perhaps with a unit behind it and white space between
them. -/
inductive Splits : List Char → List Char → Option (String × Float) → Prop
  | bare (numeral : List Char) : Splits numeral numeral none
  | measured {numeral blanks : List Char} {unit : String × Float} (known : unit ∈ units)
      (blank : ∀ c ∈ blanks, isBlank c = true) :
    Splits (numeral ++ blanks ++ unit.1.toList) numeral (some unit)

/-- The numeral is read as a finite number above zero. -/
structure Denotes (numeral : List Char) (x : Float) : Prop where
  read : Decimal.read? (String.ofList numeral) = some x
  finite : x.isFinite = true
  positive : 0.0 < x

theorem Denotes.ends {numeral : List Char} {x : Float} (h : Denotes numeral x) :
    EndsAsNumeral numeral := by
  have ends := Decimal.endsAsNumeral_of_read h.read h.finite
  rwa [String.toList_ofList] at ends

/-- A numeral and white space never end with a part of the name of a unit. -/
theorem append_ne_letters {numeral blanks letters : List Char} (ends : EndsAsNumeral numeral)
    (blank : ∀ c ∈ blanks, isBlank c = true) (filled : letters ≠ [])
    (each : ∀ c ∈ letters, IsLetter c) (front : List Char) :
    numeral ++ blanks ≠ front ++ letters := by
  intro same
  obtain ⟨notBlank, notDigit, notPoint⟩ := (each _ (List.getLast_mem filled)).apart
  have last := congrArg List.getLast? same
  rw [List.getLast?_append_of_ne_nil _ filled, List.getLast?_eq_some_getLast filled] at last
  by_cases empty : blanks = []
  · obtain ⟨c, final, kind⟩ := ends
    rw [empty, List.append_nil, final] at last
    cases last
    rcases kind with digit | point
    · rw [digit] at notDigit
      cases notDigit
    · exact notPoint point
  · rw [List.getLast?_append_of_ne_nil _ empty, List.getLast?_eq_some_getLast empty] at last
    have final := blank _ (List.getLast_mem empty)
    rw [Option.some.inj last, notBlank] at final
    cases final

/-- The unit that stands behind a numeral is the longest that the text ends with. -/
theorem longestUnit_of_splits {cs numeral : List Char} {unit : Option (String × Float)}
    (h : Splits cs numeral unit) (ends : EndsAsNumeral numeral) : longestUnit cs = unit := by
  cases h with
  | bare =>
    rcases longestUnit_cases cs with ⟨none, -⟩ | ⟨r, known, -, ⟨front, whole⟩, -⟩
    · exact none
    · have nothing : ∀ c ∈ ([] : List Char), isBlank c = true := by simp
      have apart := append_ne_letters ends nothing (name_ne_nil known) (isLetter_of_mem known)
        front
      rw [List.append_nil] at apart
      exact absurd whole.symm apart
  | @measured _ blanks u known blank =>
    have suffix : u.1.toList <:+ numeral ++ blanks ++ u.1.toList := List.suffix_append _ _
    rcases longestUnit_cases (numeral ++ blanks ++ u.1.toList) with
      ⟨-, missing⟩ | ⟨r, known', longest, suffix', most⟩
    · exact absurd suffix (missing u known)
    · -- The rest of a longer name would have to be a part of the numeral.
      have shorter := most u known suffix
      rw [← String.length_toList, ← String.length_toList] at shorter
      obtain ⟨rest, name⟩ := List.suffix_of_suffix_length_le suffix suffix' shorter
      obtain ⟨front, whole⟩ := suffix'
      rw [← name, ← List.append_assoc, List.append_left_inj] at whole
      by_cases empty : rest = []
      · rw [empty, List.nil_append] at name
        rw [longest, eq_of_name known known' (String.toList_inj.1 name)]
      · have letters : ∀ c ∈ rest, IsLetter c := fun c hc =>
          isLetter_of_mem known' c (by rw [← name]; exact List.mem_append_left _ hc)
        exact absurd whole.symm (append_ne_letters ends blank empty letters front)

theorem isBlank_toLower (c : Char) : isBlank c.toLower = isBlank c := by
  unfold Char.toLower
  split
  · rename_i capital
    have low : 65 ≤ c.toNat := capital.1
    have high : c.toNat ≤ 90 := capital.2
    have small : (c.val + 32).toNat = c.toNat + 32 := by
      rw [UInt32.toNat_add]
      change (c.toNat + 32) % 2 ^ 32 = c.toNat + 32
      omega
    rw [isBlank_eq_false (c := c) (by omega) (by omega)]
    apply isBlank_eq_false
    · change 0x20 < (c.val + 32).toNat
      omega
    · change (c.val + 32).toNat < 0x85
      omega
  · rfl

/-- The characters that a distance is read from. -/
def written (text : String) : List Char := (trimChars text.toList).map Char.toLower

theorem isTrimmed_written (text : String) : IsTrimmed (written text) := by
  have trimmed := isTrimmed_trimChars text.toList
  constructor
  · simpa [written, BeginsDark, isBlank_toLower] using trimmed.head
  · simpa [written, isBlank_toLower] using trimmed.last

def numberPart (cs : List Char) : Option (String × Float) → List Char
  | none => cs
  | some u => cs.take (cs.length - u.1.length)

theorem numberPart_append (front : List Char) (u : String × Float) :
    numberPart (front ++ u.1.toList) (some u) = front := by
  rw [numberPart, ← String.length_toList, List.length_append, Nat.add_sub_cancel, List.take_left]

theorem Splits.trim_numberPart {cs numeral : List Char} {unit : Option (String × Float)}
    (h : Splits cs numeral unit) (trimmed : IsTrimmed numeral) :
    trimChars (numberPart cs unit) = numeral := by
  cases h with
  | bare => exact trimmed.trimChars_eq
  | measured known blank =>
    rw [numberPart_append]
    exact trimChars_append trimmed blank

theorem splits_longestUnit {cs : List Char} (h : IsTrimmed cs) :
    Splits cs (trimChars (numberPart cs (longestUnit cs))) (longestUnit cs) := by
  rcases longestUnit_cases cs with ⟨none, -⟩ | ⟨u, known, longest, ⟨front, rfl⟩, -⟩
  · rw [none, numberPart, h.trimChars_eq]
    exact .bare cs
  · obtain ⟨blanks, parts, blank⟩ := eq_trimChars_append h.head.of_append
    rw [longest, numberPart_append]
    have split : Splits (trimChars front ++ blanks ++ u.1.toList) (trimChars front) (some u) :=
      .measured known blank
    rwa [← parts] at split

theorem Splits.isTrimmed {cs numeral : List Char} {unit : Option (String × Float)}
    (h : Splits cs numeral unit) (begins : BeginsDark cs) (ends : EndsAsNumeral numeral) :
    IsTrimmed numeral := by
  constructor
  · cases h with
    | bare => exact begins
    | measured known blank => exact begins.of_append.of_append
  · obtain ⟨c, last, kind⟩ := ends
    intro d hd
    rw [last] at hd
    cases hd
    rcases kind with digit | rfl
    · have bounds : '0' ≤ c ∧ c ≤ '9' := by simpa [isDigit] using digit
      have low : 48 ≤ c.toNat := bounds.1
      have high : c.toNat ≤ 57 := bounds.2
      exact isBlank_eq_false (by omega) (by omega)
    · decide

theorem Splits.eq_longest {cs numeral : List Char} {unit : Option (String × Float)}
    (h : Splits cs numeral unit) (begins : BeginsDark cs) (ends : EndsAsNumeral numeral) :
    unit = longestUnit cs ∧ numeral = trimChars (numberPart cs (longestUnit cs)) := by
  have longest := longestUnit_of_splits h ends
  rw [longest]
  exact ⟨rfl, (h.trim_numberPart (h.isTrimmed begins ends)).symm⟩

/-- The length in meters of a number of units; a number alone counts meters. -/
def inMeters (x : Float) : Option (String × Float) → Float
  | none => x
  | some u => x * u.2

def unitLength (unit : Option (String × Float)) : Float := (unit.map Prod.snd).getD 1.0

theorem inMeters_eq (x : Float) (unit : Option (String × Float)) :
    inMeters x unit = x * unitLength unit := by
  cases unit with
  | none => exact (Decimal.mul_one_eq x).symm
  | some u => rfl

theorem meters_eq {text : String} {unit : Option (String × Float)}
    (h : longestUnit (written text) = unit) :
    meters? text =
      (Decimal.read? (String.ofList (trimChars (numberPart (written text) unit)))).bind fun x =>
        if x.isFinite && decide (0.0 < x) then some (x * unitLength unit) else none := by
  unfold meters?
  dsimp only
  rw [← written, h]
  cases unit <;> rfl

theorem meters_eq_some {text : String} {d : Float} : meters? text = some d ↔
    ∃ x, Denotes (trimChars (numberPart (written text) (longestUnit (written text)))) x ∧
      d = inMeters x (longestUnit (written text)) := by
  rw [meters_eq rfl, Option.bind_eq_some_iff]
  constructor
  · rintro ⟨x, read, h⟩
    split at h
    · rename_i proper
      rw [Bool.and_eq_true, decide_eq_true_iff] at proper
      cases h
      exact ⟨x, ⟨read, proper.1, proper.2⟩, (inMeters_eq x _).symm⟩
    · cases h
  · rintro ⟨x, ⟨read, finite, positive⟩, rfl⟩
    exact ⟨x, read, by simp [finite, positive, inMeters_eq]⟩

/-- A text is a distance exactly if it splits into a numeral for a finite number above zero and
perhaps a unit; then it counts that many units, or meters.  No other such split of the text
exists. -/
theorem meters_of_splits (text : String) :
    (∀ d, meters? text = some d ↔ ∃ numeral unit x, Splits (written text) numeral unit ∧
      Denotes numeral x ∧ d = inMeters x unit) ∧
    ∀ numeral unit x numeral' unit' x', Splits (written text) numeral unit → Denotes numeral x →
      Splits (written text) numeral' unit' → Denotes numeral' x' →
      numeral' = numeral ∧ unit' = unit := by
  have trimmed := isTrimmed_written text
  refine ⟨fun d => meters_eq_some.trans ⟨?_, ?_⟩, ?_⟩
  · rintro ⟨x, denotes, rfl⟩
    exact ⟨_, _, x, splits_longestUnit trimmed, denotes, rfl⟩
  · rintro ⟨numeral, unit, x, splits, denotes, rfl⟩
    obtain ⟨longest, part⟩ := splits.eq_longest trimmed.head denotes.ends
    rw [part] at denotes
    rw [longest]
    exact ⟨x, denotes, rfl⟩
  · intro numeral unit x numeral' unit' x' splits denotes splits' denotes'
    obtain ⟨longest, part⟩ := splits.eq_longest trimmed.head denotes.ends
    obtain ⟨longest', part'⟩ := splits'.eq_longest trimmed.head denotes'.ends
    exact ⟨part'.trans part.symm, longest'.trans longest.symm⟩

/-- The text also ends with the name of a shorter unit, but leaves no numeral in front of it. -/
theorem meters_of_splits_miles :
    let text := " 2.5E1 NauticalMiles"
    let numeral := "2.5e1".toList
    let unit : String × Float := ("nauticalmiles", 1852.0)
    Splits (written text) numeral (some unit) ∧ Denotes numeral 25.0 ∧
      meters? text = some (25.0 * 1852.0) ∧
      ∀ numeral' unit' x', Splits (written text) numeral' unit' → Denotes numeral' x' →
        numeral' = numeral ∧ unit' = some unit := by
  intro text numeral unit
  have splits : Splits (written text) numeral (some unit) := by
    have known : unit ∈ units := by simp [units, unit]
    have parts : written text = numeral ++ [' '] ++ unit.1.toList := by decide
    rw [parts]
    exact .measured known (by simp [isBlank, whiteSpace, CodePoints.contains])
  have denotes : Denotes "2.5e1".toList 25.0 :=
    ⟨by with_unfolding_all rfl, by decide +kernel, by decide +kernel⟩
  obtain ⟨accepted, unique⟩ := meters_of_splits text
  exact ⟨splits, denotes, (accepted _).2 ⟨numeral, some unit, 25.0, splits, denotes, rfl⟩,
    fun _ _ x' => unique numeral (some unit) 25.0 _ _ x' splits denotes⟩

end SearchQuery.Geo.Distance
