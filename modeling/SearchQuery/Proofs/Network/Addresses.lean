import SearchQuery.Network.Address
import SearchQuery.Proofs.Text.Spans

/-!
# Addresses are read back

The text of an address is read as the address (`Address.read_text`).  The groups of a long address
are read one by one up to the two colons that stand for the longest run of zeros, and the groups
behind them tell how many zeros are missing.
-/

set_option autoImplicit false
namespace SearchQuery.Network.Address
open Decimal (isDigit digitsValue)

theorem digit_of_mem {b n : Nat} {c : Char} (large : 1 < b) (h : c ∈ Nat.toDigits b n) :
    ∃ d < b, c = Nat.digitChar d := by
  induction n using Nat.strongRecOn with
  | ind n ih =>
    rw [Nat.toDigits_eq_if large] at h
    split at h
    · exact ⟨n, by omega, by simpa using h⟩
    · rcases List.mem_append.1 h with h | h
      · exact ih (n / b) (Nat.div_lt_self (by omega) large) h
      · exact ⟨n % b, Nat.mod_lt _ (by omega), by simpa using h⟩

theorem hexDigit_digitChar : ∀ d < 16, hexDigit? (Nat.digitChar d) = some d := by decide

theorem isHex_of_mem {n : Nat} {c : Char} (h : c ∈ Nat.toDigits 16 n) : isHex c = true := by
  obtain ⟨d, small, rfl⟩ := digit_of_mem (by decide) h
  simp [isHex, hexDigit_digitChar d small]

theorem foldl_digits {b : Nat} (large : 1 < b) {value : Char → Nat}
    (values : ∀ d < b, value (Nat.digitChar d) = d) (n : Nat) :
    (Nat.toDigits b n).foldl (fun n c => b * n + value c) 0 = n := by
  induction n using Nat.strongRecOn with
  | ind n ih =>
    rw [Nat.toDigits_eq_if large]
    split
    · simp [values n (by omega)]
    · have rest := ih (n / b) (Nat.div_lt_self (by omega) large)
      simp [rest, values (n % b) (Nat.mod_lt _ (by omega)), Nat.div_add_mod]

theorem foldl_hexDigits (n : Nat) :
    (Nat.toDigits 16 n).foldl (fun n d => 16 * n + (hexDigit? d).getD 0) 0 = n :=
  foldl_digits (by decide) (fun d small => by rw [hexDigit_digitChar d small]; rfl) n

theorem isDigit_of_mem {n : Nat} {c : Char} (h : c ∈ Nat.toDigits 10 n) : isDigit c = true := by
  have digits : ∀ d < 10, isDigit (Nat.digitChar d) = true := by decide
  obtain ⟨d, small, rfl⟩ := digit_of_mem (by decide) h
  exact digits d small

theorem digitsValue_digits (n : Nat) : digitsValue (Nat.toDigits 10 n) = n :=
  foldl_digits (by decide) (by decide) n

theorem eq_zero_of_head {n : Nat} (h : (Nat.toDigits 10 n).head? = some '0') : n = 0 := by
  have digits : ∀ d < 10, Nat.digitChar d = '0' → d = 0 := by decide
  induction n using Nat.strongRecOn with
  | ind n ih =>
    rw [Nat.toDigits_eq_if (by decide)] at h
    split at h
    · exact digits n (by omega) (by simpa using h)
    · have front : (Nat.toDigits 10 (n / 10)).head? = some '0' := by
        simpa [List.head?_append, List.head?_eq_some_head Nat.toDigits_ne_nil] using h
      have := ih (n / 10) (by omega) front
      omega

theorem takeByte_text {n : Nat} (small : n < 256) {tail : Chars}
    (ends : ∀ c ∈ tail.head?, isDigit c = false) :
    takeByte? (Nat.toDigits 10 n ++ tail) = some (n, tail) := by
  have three : ¬ 3 < (Nat.toDigits 10 n).length :=
    Nat.not_lt.2 ((Nat.length_toDigits_le_iff (by decide) (by decide)).2 (by omega))
  have lead : (Nat.toDigits 10 n).head? = some '0' → Nat.toDigits 10 n = ['0'] := by
    intro h
    rw [eq_zero_of_head h]
    rfl
  have size : ¬ 255 < n := by omega
  simp only [takeByte?, takeWhile_append_stop (fun _ => isDigit_of_mem) ends, digitsValue_digits]
  simpa [three, size, Nat.toDigits_ne_nil] using lead

def byteAt (bits : BitVec 32) (i : Nat) : Nat := bits.toNat >>> (8 * (3 - i)) % 256

theorem byteAt_lt (bits : BitVec 32) (i : Nat) : byteAt bits i < 256 := Nat.mod_lt _ (by decide)

theorem textV4_chars (bits : BitVec 32) : (textV4 bits).toList =
    Nat.toDigits 10 (byteAt bits 0) ++ '.' :: (Nat.toDigits 10 (byteAt bits 1) ++ '.' ::
      (Nat.toDigits 10 (byteAt bits 2) ++ '.' :: Nat.toDigits 10 (byteAt bits 3))) := by
  simp [textV4, byteAt, Nat.repr_eq_ofList_toDigits]

theorem ofBytes (bits : BitVec 32) : BitVec.ofNat 32 (((byteAt bits 0 * 256 + byteAt bits 1) * 256 +
    byteAt bits 2) * 256 + byteAt bits 3) = bits := by
  have small := bits.isLt
  apply BitVec.eq_of_toNat_eq
  simp only [byteAt, BitVec.toNat_ofNat, Nat.shiftRight_eq_div_pow]
  omega

theorem takeV4_text (bits : BitVec 32) (tail : Chars)
    (ends : ∀ c ∈ tail.head?, isDigit c = false) :
    takeV4? ((textV4 bits).toList ++ tail) = some (bits, tail) := by
  have point : isDigit '.' = false := by decide
  have inner (i : Nat) (rest : Chars) :
      takeByte? (Nat.toDigits 10 (byteAt bits i) ++ '.' :: rest) =
        some (byteAt bits i, '.' :: rest) :=
    takeByte_text (byteAt_lt bits i) (by simpa using point)
  have last := takeByte_text (byteAt_lt bits 3) ends
  simp [takeV4?, textV4_chars, inner, last, takeChar?, ofBytes]

theorem takeV4_eq_none {cs : Chars} (h : ∀ c ∈ (cs.dropWhile isDigit).head?, c ≠ '.') :
    takeV4? cs = none := by
  have stuck : takeChar? '.' (cs.dropWhile isDigit) = none := by
    cases tail : cs.dropWhile isDigit with
    | nil => rfl
    | cons c r => simp [takeChar?, h c (by simp [tail])]
  unfold takeV4? takeByte?
  dsimp only
  split
  · rfl
  · simp [drop_takeWhile, stuck]

def EndsGroup (tail : Chars) : Prop := ∀ c ∈ tail.head?, c = ':'

theorem EndsGroup.not_isHex {tail : Chars} (h : EndsGroup tail) :
    ∀ c ∈ tail.head?, isHex c = false := by
  intro c hc
  rw [h c hc]
  decide

theorem takeGroup_text {g : Nat} (small : g < 65536) {tail : Chars} (ends : EndsGroup tail) :
    takeGroup? (Nat.toDigits 16 g ++ tail) = some (g, tail) := by
  have four : ¬ 4 < (Nat.toDigits 16 g).length :=
    Nat.not_lt.2 ((Nat.length_toDigits_le_iff (by decide) (by decide)).2 small)
  simp [takeGroup?, takeWhile_append_stop (fun _ => isHex_of_mem) ends.not_isHex, four,
    foldl_hexDigits, Nat.toDigits_ne_nil]

theorem takeV4_group (g : Nat) {tail : Chars} (ends : EndsGroup tail) :
    takeV4? (Nat.toDigits 16 g ++ tail) = none := by
  have digits : ∀ c ∈ Nat.toDigits 16 g, c ≠ '.' := by
    rintro c hc rfl
    exact absurd (isHex_of_mem hc) (by decide)
  -- Decimal digits may be taken from the front of the group, but no point follows them.
  apply takeV4_eq_none
  generalize Nat.toDigits 16 g = ds at digits
  induction ds with
  | nil =>
    intro c hc
    cases tail with
    | nil => simp at hc
    | cons d rest =>
      obtain rfl := ends d rfl
      have colon : isDigit ':' = false := by decide
      simp [colon] at hc
      simp [← hc]
  | cons d ds ih =>
    rw [List.cons_append, List.dropWhile_cons]
    split
    · exact ih fun c hc => digits c (List.mem_cons_of_mem d hc)
    · simpa using digits d List.mem_cons_self

def behindColons (gs : List Nat) : Chars := gs.flatMap fun g => ':' :: Nat.toDigits 16 g

theorem groupsText_chars (g : Nat) (rest : List Nat) :
    (groupsText (g :: rest)).toList = Nat.toDigits 16 g ++ behindColons rest := by
  induction rest generalizing g with
  | nil => simp [groupsText, behindColons]
  | cons h rest ih =>
    have tail := ih h
    simp only [groupsText, List.map_cons, String.toList_intercalate] at tail ⊢
    simp only [behindColons, List.flatMap_cons] at tail ⊢
    rw [List.intercalate_cons_cons, tail]
    simp

def EndsGroups (tail : Chars) : Prop := tail = [] ∨ ∃ rest, tail = ':' :: ':' :: rest

theorem endsGroup_colon (rest : Chars) : EndsGroup (':' :: rest) := by simp [EndsGroup]

theorem EndsGroups.behind {tail : Chars} (h : EndsGroups tail) (gs : List Nat) :
    EndsGroup (behindColons gs ++ tail) := by
  cases gs with
  | cons g gs => exact endsGroup_colon _
  | nil =>
    rcases h with rfl | ⟨rest, rfl⟩
    · simp [EndsGroup, behindColons]
    · exact endsGroup_colon _

theorem takeV4_colon (rest : Chars) : takeV4? (':' :: rest) = none := by
  apply takeV4_eq_none
  have colon : isDigit ':' = false := by decide
  simp [colon]

theorem takeGroup_colon (rest : Chars) : takeGroup? (':' :: rest) = none := by
  have colon : isHex ':' = false := by decide
  simp [takeGroup?, colon]

theorem takeGroups_behind {gs : List Nat} (small : ∀ g ∈ gs, g < 65536) (limit : Nat)
    (fits : gs.length ≤ limit) {tail : Chars} (ends : EndsGroups tail) :
    takeGroups limit false (behindColons gs ++ tail) = (gs, false, tail) := by
  induction gs generalizing limit with
  | nil =>
    cases limit with
    | zero => rfl
    | succ left =>
      rcases ends with rfl | ⟨rest, rfl⟩
      · rfl
      · simp [takeGroups, behindColons, takeChar?, takeV4_colon, takeGroup_colon]
  | cons g gs ih =>
    obtain ⟨left, rfl⟩ : ∃ left, limit = left + 1 := ⟨limit - 1, by simp at fits; omega⟩
    obtain ⟨first, others⟩ := List.forall_mem_cons.1 small
    have rest := ih others left (by simpa using fits)
    have stop := ends.behind gs
    have front : behindColons (g :: gs) ++ tail =
        ':' :: (Nat.toDigits 16 g ++ (behindColons gs ++ tail)) := by simp [behindColons]
    rw [front]
    simp [takeGroups, takeChar?, takeV4_group g stop, takeGroup_text first stop, rest]

theorem takeGroups_text {gs : List Nat} (small : ∀ g ∈ gs, g < 65536) (left : Nat)
    (fits : gs.length ≤ left + 1) {tail : Chars} (ends : EndsGroups tail) :
    takeGroups (left + 1) true ((groupsText gs).toList ++ tail) = (gs, false, tail) := by
  cases gs with
  | nil =>
    rcases ends with rfl | ⟨rest, rfl⟩
    · have none : takeV4? [] = none := rfl
      simp [takeGroups, groupsText, none, takeGroup?]
    · simp [takeGroups, groupsText, takeV4_colon, takeGroup_colon]
  | cons g gs =>
    obtain ⟨first, others⟩ := List.forall_mem_cons.1 small
    have rest := takeGroups_behind others left (by simpa using fits) ends
    have stop := ends.behind gs
    simp [takeGroups, groupsText_chars, takeV4_group g stop, takeGroup_text first stop, rest]

theorem groups_lt (bits : BitVec 128) : ∀ g ∈ groups bits, g < 65536 := by
  intro g hg
  obtain ⟨i, -, rfl⟩ := List.mem_map.1 hg
  exact Nat.mod_lt _ (by decide)

theorem length_groups (bits : BitVec 128) : (groups bits).length = 8 := by simp [groups]

theorem ofGroups_groups (bits : BitVec 128) : ofGroups (groups bits) = bits := by
  have small := bits.isLt
  apply BitVec.eq_of_toNat_eq
  simp only [ofGroups, groups, List.range, List.range.loop, List.map_cons, List.map_nil,
    List.foldl_cons, List.foldl_nil, BitVec.toNat_ofNat, Nat.shiftRight_eq_div_pow]
  omega

/-- A run of zeros of a list, given by its place and its length. -/
def IsZeros (gs : List Nat) (run : Nat × Nat) : Prop :=
  gs.drop run.1 = List.replicate run.2 0 ++ gs.drop (run.1 + run.2)

theorem isZeros_leading (gs : List Nat) (i : Nat) : IsZeros gs (i, leadingZeros (gs.drop i)) := by
  have split := List.takeWhile_append_dropWhile (p := (· == 0)) (l := gs.drop i)
  have zeros : (gs.drop i).takeWhile (· == 0) = List.replicate (leadingZeros (gs.drop i)) 0 :=
    List.eq_replicate_iff.2 ⟨rfl, fun g hg => by
      simpa using List.all_eq_true.1 List.all_takeWhile g hg⟩
  rw [zeros, ← drop_takeWhile, ← leadingZeros, List.drop_drop] at split
  exact split.symm

theorem isZeros_longest (gs : List Nat) : IsZeros gs (longestZeros gs) := by
  have each (places : List Nat) (best : Nat × Nat) (h : IsZeros gs best) :
      IsZeros gs (places.foldl (fun best i =>
        let run := leadingZeros (gs.drop i)
        if best.2 < run then (i, run) else best) best) := by
    induction places generalizing best with
    | nil => exact h
    | cons i rest ih =>
      rw [List.foldl_cons]
      apply ih
      dsimp only
      split
      · exact isZeros_leading gs i
      · exact h
  exact each _ _ (by simp [IsZeros])

theorem takeV6_full {gs : List Nat} (small : ∀ g ∈ gs, g < 65536) (eight : gs.length = 8) :
    takeV6? (groupsText gs).toList = some (ofGroups gs, []) := by
  have taken := takeGroups_text small 7 (by omega) (.inl rfl)
  rw [List.append_nil] at taken
  simp [takeV6?, taken, eight]

theorem takeV6_shortened {gs : List Nat} (small : ∀ g ∈ gs, g < 65536) (eight : gs.length = 8)
    {start length : Nat} (zeros : IsZeros gs (start, length)) (several : 1 < length) :
    takeV6? ((groupsText (gs.take start)).toList ++
      ':' :: ':' :: (groupsText (gs.drop (start + length))).toList) = some (ofGroups gs, []) := by
  have sizes := congrArg List.length zeros
  simp only [List.length_drop, List.length_append, List.length_replicate, eight] at sizes
  have before : ∀ g ∈ gs.take start, g < 65536 := fun g hg => small g (List.mem_of_mem_take hg)
  have behind : ∀ g ∈ gs.drop (start + length), g < 65536 := fun g hg =>
    small g (List.mem_of_mem_drop hg)
  have front := takeGroups_text before 7 (by simp; omega)
    (.inr ⟨(groupsText (gs.drop (start + length))).toList, rfl⟩)
  have back := takeGroups_text behind (6 - start) (by simp; omega) (.inl rfl)
  have few : (gs.take start).length = start := by simp; omega
  have missing : 8 - start - (gs.drop (start + length)).length = length := by simp; omega
  have whole : gs.take start ++ List.replicate length 0 ++ gs.drop (start + length) = gs := by
    rw [List.append_assoc, ← zeros, List.take_append_drop]
  rw [List.append_nil, show 6 - start + 1 = 7 - start by omega] at back
  rw [takeV6?, front]
  simp only [few, back, missing, whole]
  rw [if_neg (by omega)]
  rfl

theorem takeGroups_embedded (bits : BitVec 32) :
    takeGroups 7 true (Nat.toDigits 16 65535 ++ ':' :: (textV4 bits).toList) =
      ([65535, bits.toNat / 65536, bits.toNat % 65536], true, []) := by
  have short := takeV4_text bits [] (by simp)
  rw [List.append_nil] at short
  simp [takeGroups, takeChar?, takeV4_group _ (endsGroup_colon _),
    takeGroup_text (g := 65535) (by decide) (endsGroup_colon _), short]

theorem ofGroups_embedded {bits : BitVec 128}
    (mapped : (groups bits).take 6 = [0, 0, 0, 0, 0, 65535]) :
    ofGroups [0, 0, 0, 0, 0, 65535, (bits.setWidth 32).toNat / 65536,
      (bits.setWidth 32).toNat % 65536] = bits := by
  have last : (groups bits).drop 6 = [(bits.setWidth 32).toNat / 65536,
      (bits.setWidth 32).toNat % 65536] := by
    simp only [groups, List.range, List.range.loop, List.map_cons, List.map_nil, List.drop,
      BitVec.toNat_setWidth, Nat.shiftRight_eq_div_pow, List.cons.injEq, and_true]
    omega
  have whole := List.take_append_drop 6 (groups bits)
  rw [mapped, last] at whole
  have read := ofGroups_groups bits
  rwa [← whole] at read

theorem takeV6_embedded {bits : BitVec 128}
    (mapped : (groups bits).take 6 = [0, 0, 0, 0, 0, 65535]) :
    takeV6? (':' :: ':' :: (Nat.toDigits 16 65535 ++ ':' :: (textV4 (bits.setWidth 32)).toList)) =
      some (bits, []) := by
  -- No group stands in front of the colons, so all that is read stands behind them.
  have front (rest : Chars) : takeGroups 8 true (':' :: ':' :: rest) =
      ([], false, ':' :: ':' :: rest) := by
    simp [takeGroups, takeV4_colon, takeGroup_colon]
  have whole := ofGroups_embedded mapped
  generalize bits.setWidth 32 = short at whole ⊢
  simp [takeV6?, front, takeGroups_embedded, whole]

/-- The three forms of a long address: with a short one at its end, with a run of zeros left out,
and in full. -/
theorem textV6_forms (bits : BitVec 128) :
    ((groups bits).take 6 = [0, 0, 0, 0, 0, 65535] ∧ (textV6 bits).toList =
      ':' :: ':' :: (Nat.toDigits 16 65535 ++ ':' :: (textV4 (bits.setWidth 32)).toList)) ∨
    (∃ start length, IsZeros (groups bits) (start, length) ∧ 1 < length ∧ (textV6 bits).toList =
      (groupsText ((groups bits).take start)).toList ++
        ':' :: ':' :: (groupsText ((groups bits).drop (start + length))).toList) ∨
    (textV6 bits).toList = (groupsText (groups bits)).toList := by
  have zeros := isZeros_longest (groups bits)
  unfold textV6
  dsimp only
  generalize longestZeros (groups bits) = run at zeros ⊢
  obtain ⟨start, length⟩ := run
  dsimp only
  split
  · rename_i mapped
    have front : "::ffff:".toList = ':' :: ':' :: (Nat.toDigits 16 65535 ++ [':']) := by decide
    exact .inl ⟨mapped, by rw [String.toList_append, front]; simp⟩
  · split
    · rename_i several
      exact .inr (.inl ⟨start, length, zeros, several, by simp⟩)
    · exact .inr (.inr rfl)

theorem takeV6_text (bits : BitVec 128) :
    takeV6? (textV6 bits).toList = some (bits, []) := by
  have small := groups_lt bits
  have eight := length_groups bits
  rcases textV6_forms bits with ⟨mapped, form⟩ | ⟨start, length, zeros, several, form⟩ | form
  · rw [form, takeV6_embedded mapped]
  · rw [form, takeV6_shortened small eight zeros several, ofGroups_groups]
  · rw [form, takeV6_full small eight, ofGroups_groups]

theorem takeV4_groups (gs : List Nat) {tail : Chars} (ends : EndsGroups tail) :
    takeV4? ((groupsText gs).toList ++ tail) = none := by
  cases gs with
  | cons g gs =>
    rw [groupsText_chars, List.append_assoc]
    exact takeV4_group g (ends.behind gs)
  | nil =>
    rcases ends with rfl | ⟨rest, rfl⟩
    · rfl
    · exact takeV4_colon _

theorem takeV4_textV6 (bits : BitVec 128) : takeV4? (textV6 bits).toList = none := by
  rcases textV6_forms bits with ⟨-, form⟩ | ⟨start, length, -, -, form⟩ | form
  · rw [form, takeV4_colon]
  · rw [form, takeV4_groups _ (.inr ⟨_, rfl⟩)]
  · have none := takeV4_groups (groups bits) (.inl rfl)
    rwa [List.append_nil, ← form] at none

theorem read_text (a : Address) : read? a.text.toList = some a := by
  cases a with
  | v4 bits =>
    have short := takeV4_text bits [] (by simp)
    rw [List.append_nil] at short
    simp [read?, text, short]
  | v6 bits => simp [read?, text, takeV4_textV6, takeV6_text]

def IsAddressChar (c : Char) : Prop := (∃ d < 16, c = Nat.digitChar d) ∨ c = '.' ∨ c = ':'

theorem isAddressChar_digits {b n : Nat} (large : 1 < b) (few : b ≤ 16) {c : Char}
    (h : c ∈ Nat.toDigits b n) : IsAddressChar c := by
  obtain ⟨d, small, rfl⟩ := digit_of_mem large h
  exact .inl ⟨d, by omega, rfl⟩

theorem isAddressChar_groups {gs : List Nat} {c : Char} (h : c ∈ (groupsText gs).toList) :
    IsAddressChar c := by
  cases gs with
  | nil => simp [groupsText] at h
  | cons g gs =>
    rw [groupsText_chars] at h
    rcases List.mem_append.1 h with h | h
    · exact isAddressChar_digits (by decide) (by decide) h
    · obtain ⟨g, -, h⟩ := List.mem_flatMap.1 h
      rcases List.mem_cons.1 h with rfl | h
      · exact .inr (.inr rfl)
      · exact isAddressChar_digits (by decide) (by decide) h

theorem isAddressChar_textV4 {bits : BitVec 32} {c : Char} (h : c ∈ (textV4 bits).toList) :
    IsAddressChar c := by
  have digits (i : Nat) (h : c ∈ Nat.toDigits 10 (byteAt bits i)) : IsAddressChar c :=
    isAddressChar_digits (by decide) (by decide) h
  have point : IsAddressChar '.' := .inr (.inl rfl)
  rw [textV4_chars] at h
  simp only [List.mem_append, List.mem_cons] at h
  rcases h with h | rfl | h | rfl | h | rfl | h
  all_goals first | exact point | exact digits _ h

theorem isAddressChar_text {a : Address} {c : Char} (h : c ∈ a.text.toList) :
    IsAddressChar c := by
  have colon : IsAddressChar ':' := .inr (.inr rfl)
  cases a with
  | v4 bits =>
    rw [text] at h
    exact isAddressChar_textV4 h
  | v6 bits =>
    rw [text] at h
    rcases textV6_forms bits with ⟨-, form⟩ | ⟨start, length, -, -, form⟩ | form
    all_goals rw [form] at h
    · simp only [List.mem_append, List.mem_cons] at h
      rcases h with rfl | rfl | h | rfl | h
      · exact colon
      · exact colon
      · exact isAddressChar_digits (by decide) (by decide) h
      · exact colon
      · exact isAddressChar_textV4 h
    · simp only [List.mem_append, List.mem_cons] at h
      rcases h with h | rfl | rfl | h
      · exact isAddressChar_groups h
      · exact colon
      · exact colon
      · exact isAddressChar_groups h
    · exact isAddressChar_groups h

end SearchQuery.Network.Address
