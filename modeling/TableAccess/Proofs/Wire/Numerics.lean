import TableAccess.Proofs.Wire.Words
import TableAccess.Wire.Decode

/-!
Decimals on the wire.

The groups of a decimal are read back as they were written. Adding them up again may round, but a
sum never gets further from the number than the groups that have been added, so that a decimal
always has room for it.
-/

set_option autoImplicit false
set_option relaxedAutoImplicit false

namespace TableAccess

/-! ### Sums that are rounded -/

namespace Decimal

theorem roundHalfEven_le (num den : Nat) : roundHalfEven num den ≤ num / den + 1 := by
  simp only [roundHalfEven]
  split
  · exact Nat.le_succ _
  · split
    · exact Nat.le_refl _
    · split
      · exact Nat.le_succ _
      · exact Nat.le_refl _

theorem ofParts?_eq_some {negative : Bool} {coefficient scale : Nat} {d : Decimal}
    (h : ofParts? negative coefficient scale = some d) :
    d.coefficient = coefficient ∧ d.scale = scale := by
  unfold ofParts? at h
  split at h
  · cases h
    exact ⟨rfl, rfl⟩
  · cases h

/-- A number that is less than the greatest coefficient fits with some of its decimals, and rounding
adds one to its coefficient at most. -/
private theorem exists_fitFrom {coefficient scale : Nat}
    (small : coefficient < (2 ^ 96 - 1) * 10 ^ scale) (fuel dropped : Nat)
    (all : dropped + (fuel + 1) = scale + 1) :
    ∃ d, fitFrom coefficient scale dropped (fuel + 1) = some d ∧
      ∃ left, d.scale + left = scale ∧ d.coefficient ≤ coefficient / 10 ^ left + 1 := by
  induction fuel generalizing dropped with
  | zero =>
    obtain rfl : dropped = scale := by omega
    have whole : coefficient / 10 ^ dropped < 2 ^ 96 - 1 :=
      (Nat.div_lt_iff_lt_mul (Nat.pow_pos (by decide))).mpr small
    have rounded := roundHalfEven_le coefficient (10 ^ dropped)
    have fits : roundHalfEven coefficient (10 ^ dropped) < 2 ^ 96 ∧ dropped - dropped ≤ 28 := by
      omega
    refine ⟨⟨false, _, _, fits.1, fits.2⟩, ?_, dropped, by simp only [Nat.sub_self]; omega, rounded⟩
    rw [fitFrom, ofParts?, dif_pos fits]
  | succ fuel ih =>
    rw [fitFrom]
    cases parts : ofParts? false (roundHalfEven coefficient (10 ^ dropped)) (scale - dropped) with
    | none => exact ih (dropped + 1) (by omega)
    | some d =>
      obtain ⟨same, places⟩ := ofParts?_eq_some parts
      refine ⟨d, rfl, dropped, by omega, ?_⟩
      rw [same]
      exact roundHalfEven_le _ _

/-- The number is less than a natural number. -/
def Below (d : Decimal) (bound : Nat) : Prop := d.coefficient < bound * 10 ^ d.scale

/-- A number below a coefficient fits, and rounding leaves it below the next one. -/
theorem exists_fit {coefficient scale bound : Nat} (below : coefficient < bound * 10 ^ scale)
    (room : bound < 2 ^ 96) : ∃ d, fit coefficient scale = some d ∧ d.Below (bound + 1) := by
  have small : bound * 10 ^ scale ≤ (2 ^ 96 - 1) * 10 ^ scale :=
    Nat.mul_le_mul_right _ (by omega)
  obtain ⟨d, fits, left, places, rounded⟩ :=
    exists_fitFrom (Nat.lt_of_lt_of_le below small) scale 0 (Nat.zero_add _)
  refine ⟨d, fits, ?_⟩
  rw [← places, Nat.pow_add, ← Nat.mul_assoc] at below
  have cut : coefficient / 10 ^ left < bound * 10 ^ d.scale :=
    (Nat.div_lt_iff_lt_mul (Nat.pow_pos (by decide))).mpr below
  have one : 1 ≤ 10 ^ d.scale := Nat.pow_pos (by decide)
  rw [Below, Nat.succ_mul]
  omega

end Decimal

namespace Wire.Groups

variable {d : Decimal} {bound : Nat}

/-- A sum with less than one stays below two more. -/
theorem exists_addFraction {n scale : Nat} (below : d.Below bound) (fraction : n < 10 ^ scale)
    (room : bound + 1 < 2 ^ 96) :
    ∃ e, addFraction d n scale = some e ∧ e.Below (bound + 2) := by
  have le_top : scale ≤ max d.scale scale := Nat.le_max_right _ _
  have own_le_top : d.scale ≤ max d.scale scale := Nat.le_max_left _ _
  have own : d.coefficient * 10 ^ (max d.scale scale - d.scale) <
      bound * 10 ^ max d.scale scale := by
    calc d.coefficient * 10 ^ (max d.scale scale - d.scale)
        < bound * 10 ^ d.scale * 10 ^ (max d.scale scale - d.scale) :=
          Nat.mul_lt_mul_of_pos_right below (Nat.pow_pos (by decide))
      _ = bound * 10 ^ max d.scale scale := by
          rw [Nat.mul_assoc, ← Nat.pow_add, Nat.add_sub_cancel' own_le_top]
  have added : n * 10 ^ (max d.scale scale - scale) < 10 ^ max d.scale scale := by
    calc n * 10 ^ (max d.scale scale - scale)
        < 10 ^ scale * 10 ^ (max d.scale scale - scale) :=
          Nat.mul_lt_mul_of_pos_right fraction (Nat.pow_pos (by decide))
      _ = 10 ^ max d.scale scale := by rw [← Nat.pow_add, Nat.add_sub_cancel' le_top]
  have total : d.coefficient * 10 ^ (max d.scale scale - d.scale) +
      n * 10 ^ (max d.scale scale - scale) < (bound + 1) * 10 ^ max d.scale scale := by
    rw [Nat.succ_mul]
    exact Nat.add_lt_add own added
  exact Decimal.exists_fit total room

/-- Groups after the point can be added as long as there is room for two more each. -/
theorem exists_addGroups {groups : List Nat} (below : d.Below bound) {decimals : Nat}
    (places : 4 ≤ decimals) (small : ∀ g ∈ groups, g < base)
    (room : bound + 2 * groups.length ≤ 2 ^ 96) : ∃ e, addGroups d decimals groups = some e := by
  induction groups generalizing d bound decimals with
  | nil => exact ⟨d, rfl⟩
  | cons g groups ih =>
    obtain ⟨group, others⟩ := List.forall_mem_cons.mp small
    rw [List.length_cons] at room
    -- Whatever becomes of the group, the sum stays below two more.
    have next : ∃ e, (if decimals ≤ Decimal.maxScale then addFraction d g decimals
        else if decimals = Decimal.maxScale + 4 ∧ 5000 ≤ g then addFraction d 1 Decimal.maxScale
        else some d) = some e ∧ e.Below (bound + 2) := by
      split
      · have four : 10 ^ 4 ≤ 10 ^ decimals := Nat.pow_le_pow_right (by decide) places
        have fraction : g < 10 ^ decimals := Nat.lt_of_lt_of_le group four
        exact exists_addFraction below fraction (by omega)
      · split
        · have unit : 1 < 10 ^ Decimal.maxScale := by decide
          exact exists_addFraction below unit (by omega)
        · refine ⟨d, rfl, Nat.lt_of_lt_of_le below ?_⟩
          exact Nat.mul_le_mul_right _ (Nat.le_add_right _ _)
    obtain ⟨e, added, after⟩ := next
    obtain ⟨sum, rest⟩ := ih after (Nat.le_add_right_of_le places) others (by omega)
    exact ⟨sum, by rw [addGroups, added, Option.bind_some, rest]⟩

/-! ### The groups of a number -/

/-- The number of some groups, the last one first. -/
def number (groups : List Nat) : Nat := groups.foldr (fun g n => base * n + g) 0

theorem number_split (n : Nat) : number (split n) = n := by
  induction n using Nat.strongRecOn with
  | ind n ih =>
    rw [split]
    split
    · next zero => exact zero.symm
    · next nonzero =>
      have smaller := ih (n / base) (Nat.div_lt_self (Nat.pos_of_ne_zero nonzero) (by decide))
      rw [number, List.foldr_cons, ← number, smaller]
      exact Nat.div_add_mod n base

theorem lt_base_of_mem_split {n g : Nat} (member : g ∈ split n) : g < base := by
  induction n using Nat.strongRecOn with
  | ind n ih =>
    rw [split] at member
    split at member
    · cases member
    · next nonzero =>
      rcases List.mem_cons.mp member with rfl | later
      · exact Nat.mod_lt _ (by decide)
      · exact ih _ (Nat.div_lt_self (Nat.pos_of_ne_zero nonzero) (by decide)) later

theorem length_split_le {n count : Nat} (small : n < base ^ count) :
    (split n).length ≤ count := by
  induction count generalizing n with
  | zero =>
    obtain rfl : n = 0 := Nat.lt_one_iff.mp small
    rw [split, if_pos rfl]
    exact Nat.le_refl _
  | succ count ih =>
    rw [split]
    split
    · exact Nat.zero_le _
    · rw [Nat.pow_succ] at small
      exact Nat.succ_le_succ (ih (Nat.div_lt_of_lt_mul (Nat.mul_comm _ _ ▸ small)))

/-- The number without its last groups, with as many zeros in their place, is not greater. -/
theorem number_drop_le (groups : List Nat) (count : Nat) :
    number (groups.drop count) * base ^ count ≤ number groups := by
  induction count generalizing groups with
  | zero => exact Nat.le_of_eq (Nat.mul_one _)
  | succ count ih =>
    cases groups with
    | nil => exact Nat.le_of_eq (Nat.zero_mul _)
    | cons g groups =>
      rw [List.drop_succ_cons, Nat.pow_succ, ← Nat.mul_assoc, Nat.mul_comm _ base]
      calc base * (number (groups.drop count) * base ^ count)
          ≤ base * number groups := Nat.mul_le_mul_left _ (ih groups)
        _ ≤ number (g :: groups) := Nat.le_add_right _ _

theorem integralPart_reverse (groups : List Nat) :
    integralPart groups.reverse 0 = number groups := by
  rw [integralPart, List.foldl_reverse, Nat.pow_zero, Nat.mul_one]
  rfl

/-- The groups of a decimal that is not zero: those before the point, as many as the weight tells,
and those after it, of which there are none without decimals. -/
theorem ofDecimal_parts {d : Decimal} (nonzero : d.coefficient ≠ 0) :
    ∃ integers fraction : List Nat, (ofDecimal d).digits = integers ++ fraction ∧
      ((ofDecimal d).weight + 1).toNat = integers.length ∧ -10 ≤ (ofDecimal d).weight ∧
      integralPart integers 0 * 10 ^ d.scale ≤ d.coefficient ∧
      (d.scale = 0 → fraction = []) ∧ integers.length + fraction.length ≤ 9 ∧
      ∀ g ∈ integers ++ fraction, g < base := by
  have limit := d.coefficient_lt
  have places := d.scale_le
  simp only [ofDecimal, if_neg nonzero]
  generalize rounded : (d.scale + 3) / 4 = decimals
  have padding : 4 * decimals - d.scale ≤ 3 := by omega
  have covered : d.scale + (4 * decimals - d.scale) = 4 * decimals := by omega
  generalize zeros : 4 * decimals - d.scale = more at padding covered
  have positive : 0 < 10 ^ more := Nat.pow_pos (by decide)
  have whole := number_split (d.coefficient * 10 ^ more)
  have short : (split (d.coefficient * 10 ^ more)).length ≤ 9 := by
    have padded : 10 ^ more ≤ 10 ^ 3 := Nat.pow_le_pow_right (by decide) padding
    refine length_split_le ?_
    calc d.coefficient * 10 ^ more ≤ 2 ^ 96 * 10 ^ 3 :=
          Nat.mul_le_mul (Nat.le_of_lt limit) padded
      _ < base ^ 9 := by decide
  have small : ∀ g ∈ split (d.coefficient * 10 ^ more), g < base :=
    fun g member => lt_base_of_mem_split member
  generalize split (d.coefficient * 10 ^ more) = groups at whole short small
  have some_groups : groups ≠ [] := by
    rintro rfl
    exact Nat.mul_ne_zero nonzero (Nat.ne_of_gt positive) whole.symm
  have some_length : 0 < groups.length := List.length_pos_iff.mpr some_groups
  have integral : number (groups.drop decimals) * 10 ^ d.scale ≤ d.coefficient := by
    have powers : base ^ decimals = 10 ^ d.scale * 10 ^ more := by
      rw [← Nat.pow_add, covered, Nat.pow_mul]
      rfl
    have front := number_drop_le groups decimals
    rw [powers, whole, ← Nat.mul_assoc] at front
    exact Nat.le_of_mul_le_mul_right front positive
  split
  · next reaches =>
    refine ⟨(groups.drop decimals).reverse,
      ((groups.take decimals).dropWhile (· == 0)).reverse, List.reverse_append, ?_, by omega, ?_,
      ?_, ?_, ?_⟩
    · rw [List.length_reverse, List.length_drop]
      omega
    · rwa [integralPart_reverse]
    · intro none
      have zero : decimals = 0 := by omega
      rw [zero]
      rfl
    · have shorter := (List.dropWhile_sublist (· == 0) (l := groups.take decimals)).length_le
      rw [List.length_take] at shorter
      rw [List.length_reverse, List.length_reverse, List.length_drop]
      omega
    · intro g member
      refine small g ?_
      rcases List.mem_append.mp member with integer | fraction
      · exact List.mem_of_mem_drop (List.mem_reverse.mp integer)
      · exact List.mem_of_mem_take
          ((List.dropWhile_sublist _).mem (List.mem_reverse.mp fraction))
  · next below =>
    refine ⟨[], groups.reverse, rfl, ?_, by omega, ?_, ?_, ?_, ?_⟩
    · rw [List.length_nil]
      omega
    · rw [integralPart, List.foldl_nil, Nat.zero_mul, Nat.zero_mul]
      exact Nat.zero_le _
    · intro none
      omega
    · rw [List.length_nil, List.length_reverse, Nat.zero_add]
      exact short
    · intro g member
      exact small g (List.mem_reverse.mp member)

/-- The groups of a decimal add up to a decimal. -/
theorem exists_toDecimal (d : Decimal) : ∃ e, (ofDecimal d).toDecimal? = some e := by
  by_cases zero : d.coefficient = 0
  · rw [ofDecimal, if_pos zero]
    exact ⟨_, rfl⟩
  · obtain ⟨integers, fraction, digits, before, -, integral, scale, short, small⟩ :=
      ofDecimal_parts zero
    have limit := d.coefficient_lt
    generalize whole : integralPart integers 0 = n at integral
    have room : n + 1 + 2 * fraction.length ≤ 2 ^ 96 := by
      cases places : d.scale with
      | zero =>
        rw [places, Nat.pow_zero, Nat.mul_one] at integral
        rw [scale places, List.length_nil]
        omega
      | succ more =>
        have ten : 10 ≤ 10 ^ d.scale := by
          rw [places, Nat.pow_succ]
          exact Nat.le_mul_of_pos_left _ (Nat.pow_pos (by decide))
        have tenfold := Nat.le_trans (Nat.mul_le_mul_left n ten) integral
        omega
    have fits : n < 2 ^ 96 ∧ 0 ≤ 28 := by omega
    have start : Decimal.ofParts? false n 0 = some ⟨false, n, 0, fits.1, fits.2⟩ := dif_pos fits
    have below : Decimal.Below ⟨false, n, 0, fits.1, fits.2⟩ (n + 1) :=
      Nat.lt_of_lt_of_eq (Nat.lt_succ_self n) (Nat.mul_one _).symm
    have places : 4 ≤ 4 * ((-(ofDecimal d).weight - 1).toNat + 1) := by omega
    obtain ⟨sum, added⟩ := exists_addGroups below places
      (fun g member => small g (List.mem_append_right _ member)) room
    have magnitude : (ofDecimal d).magnitude? = some sum := by
      simp only [magnitude?, digits, before, List.take_left, List.drop_left, Nat.sub_self, whole,
        start, Option.bind_eq_bind, Option.bind_some, added]
    exact ⟨_, by rw [toDecimal?, magnitude, Option.map_some]⟩

/-! ### Groups as bytes -/

theorem readWords_flatMap {words : List Nat} (small : ∀ w ∈ words, w < 65536) :
    readWords words.length (words.flatMap (bytesOfNat 2)) = some words := by
  induction words with
  | nil => rfl
  | cons w words ih =>
    obtain ⟨first, others⟩ := List.forall_mem_cons.mp small
    have value : natOfBytes (bytesOfNat 2 w) = w := by
      rw [natOfBytes_bytesOfNat]
      exact Nat.mod_eq_of_lt first
    rw [List.flatMap_cons, List.length_cons, readWords, take?_append (length_bytesOfNat 2 w),
      Option.bind_eq_bind, Option.bind_some]
    simp only [ih others, value]
    rfl

theorem read?_bytes {g : Groups} (count : g.digits.length < 65536) (weight : Fits 16 g.weight)
    (scale : g.displayScale < 65536) (small : ∀ w ∈ g.digits, w < 65536) :
    read? g.bytes = some g := by
  have word {n : Nat} (h : n < 65536) : natOfBytes (bytesOfNat 2 n) = n := by
    rw [natOfBytes_bytesOfNat]
    exact Nat.mod_eq_of_lt h
  have sign : (natOfBytes (bytesOfNat 2 (if g.negative then negativeMark else 0)) ==
      negativeMark) = g.negative := by
    cases g.negative <;> decide
  have signed : intOfBytes (bytesOfInt 2 g.weight) = g.weight :=
    intOfBytes_bytesOfInt (by decide) weight
  simp only [read?, bytes, List.append_assoc, take?_append (length_bytesOfNat _ _),
    take?_append (length_bytesOfInt _ _), Option.bind_eq_bind, Option.bind_some, word count,
    word scale, readWords_flatMap small, signed, sign]
  rfl

/-- The groups of a decimal are few and small enough for their words. -/
theorem read?_bytes_ofDecimal (d : Decimal) : read? (ofDecimal d).bytes = some (ofDecimal d) := by
  by_cases zero : d.coefficient = 0
  · rw [ofDecimal, if_pos zero]
    exact read?_bytes (by decide) ⟨by decide, by decide⟩ (by decide) (List.forall_mem_nil _)
  · obtain ⟨integers, fraction, digits, before, low, -, -, short, small⟩ := ofDecimal_parts zero
    have places := d.scale_le
    have shown : (ofDecimal d).displayScale = d.scale := by rw [ofDecimal, if_neg zero]
    refine read?_bytes ?_ ⟨?_, ?_⟩ ?_ ?_
    · rw [digits, List.length_append]
      omega
    · exact Int.le_trans (by decide) low
    · have high : (ofDecimal d).weight < 9 := by omega
      exact Int.lt_trans high (by decide)
    · omega
    · intro w member
      rw [digits] at member
      exact Nat.lt_trans (small w member) (by decide)

end Wire.Groups

/-- The bytes of a decimal stand for a decimal. -/
theorem Wire.exists_ofImage_numeric (d : Decimal) :
    ∃ e, Scalar.ofImage .numeric (Groups.ofDecimal d).bytes = .ok e := by
  obtain ⟨e, sum⟩ := Groups.exists_toDecimal d
  refine ⟨e, ?_⟩
  simp only [Scalar.ofImage, Groups.read?_bytes_ofDecimal, sum]

end TableAccess
