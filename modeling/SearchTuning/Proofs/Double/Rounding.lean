import Mathlib.Tactic.Ring
import SearchTuning.Double.Shortest

/-!
# Decimals that read back

Rounding looks at a quotient alone, not at how it is written, and a magnitude that is written out is
its own nearest one.  So the shortest decimal of a double reads back as that double.
-/

namespace SearchTuning.Double

/-- The exponent is a variable so that its power is not multiplied out. -/
theorem unit_eq {bits : Nat} (all : bits = 1074) : unit = 2 ^ bits := by
  unfold unit
  rw [← all, Nat.pow_eq]

theorem unit_pos : 0 < unit := by
  obtain ⟨bits, all⟩ : ∃ bits, bits = 1074 := ⟨_, rfl⟩
  rw [unit_eq all]
  exact Nat.two_pow_pos bits

theorem binade_pos : 0 < binade := Nat.pow_pos (by decide)

/-! ## Rounding a quotient -/

theorem roundHalfEven_mul_right {k : Nat} (positive : 0 < k) (num den : Nat) :
    roundHalfEven (num * k) (den * k) = roundHalfEven num den := by
  have doubled : 2 * (num % den * k) = 2 * (num % den) * k := (Nat.mul_assoc _ _ _).symm
  simp only [roundHalfEven, Nat.mul_div_mul_right _ _ positive, Nat.mul_mod_mul_right, doubled,
    Nat.mul_lt_mul_right positive, Nat.mul_left_inj (Nat.ne_of_gt positive)]

theorem roundHalfEven_mul_self (n : Nat) {den : Nat} (positive : 0 < den) :
    roundHalfEven (n * den) den = n := by
  have whole : n * den / den = n := Nat.mul_div_cancel n positive
  have rest : n * den % den = 0 := Nat.mul_mod_left n den
  rw [roundHalfEven, whole, rest]
  exact if_pos (.inl positive)

theorem div_le_roundHalfEven (num den : Nat) : num / den ≤ roundHalfEven num den := by
  rw [roundHalfEven]
  split
  · exact Nat.le_refl _
  · exact Nat.le_succ _

theorem rankOfRatio_mul_right {k : Nat} (positive : 0 < k) (num den : Nat) :
    rankOfRatio (num * k) (den * k) = rankOfRatio num den := by
  have numEq : num * k * unit = num * unit * k := Nat.mul_right_comm num k unit
  have denEq : ∀ shift, den * k * Nat.pow 2 shift = den * Nat.pow 2 shift * k := fun shift =>
    Nat.mul_right_comm den k _
  simp only [rankOfRatio, numEq, denEq, Nat.mul_div_mul_right _ _ positive,
    roundHalfEven_mul_right positive]

/-- Equal quotients have the same rank. -/
theorem rankOfRatio_congr {num den num' den' : Nat} (positive : 0 < den) (positive' : 0 < den')
    (same : num * den' = num' * den) : rankOfRatio num den = rankOfRatio num' den' := by
  rw [← rankOfRatio_mul_right positive' num den, same, Nat.mul_comm den den',
    rankOfRatio_mul_right positive]

/-- What is less than half the least magnitude above zero is rounded to zero. -/
theorem rankOfRatio_of_small {num den : Nat} (small : 2 * (num * unit) < den) :
    rankOfRatio num den = 0 := by
  have less : num * unit < den := by omega
  have none : num * unit / den = 0 := Nat.div_eq_of_lt less
  have rest : num * unit % den = num * unit := Nat.mod_eq_of_lt less
  have rounded : roundHalfEven (num * unit) den = 0 := by
    rw [roundHalfEven, none, rest]
    exact if_pos (.inl small)
  have shift : Nat.log2 0 - 52 = 0 := rfl
  simp only [rankOfRatio, none, shift, Nat.zero_mul, Nat.zero_add]
  exact (congrArg _ (Nat.mul_one den)).trans rounded

/-- A quotient that is not less than the first power of two beyond the magnitudes has no rank among
them. -/
theorem magnitudes_le_rankOfRatio {num den : Nat} (positive : 0 < den)
    (great : den * 2 ^ 1024 ≤ num) : magnitudes ≤ rankOfRatio num den := by
  let quotient := num * unit / den
  obtain ⟨bits, all⟩ : ∃ bits, bits = 1074 := ⟨_, rfl⟩
  obtain ⟨top, beyond⟩ : ∃ top, top = 1024 := ⟨_, rfl⟩
  obtain ⟨length, both⟩ : ∃ length, length = top + bits := ⟨_, rfl⟩
  rw [← beyond] at great
  have enough : 2 ^ length ≤ quotient := by
    rw [Nat.le_div_iff_mul_le positive, Nat.mul_comm, both, Nat.pow_add, ← unit_eq all,
      ← Nat.mul_assoc]
    exact Nat.mul_le_mul_right unit great
  have nonzero : quotient ≠ 0 := Nat.ne_of_gt (Nat.lt_of_lt_of_le (Nat.two_pow_pos length) enough)
  have log : length ≤ quotient.log2 := (Nat.le_log2 nonzero).mpr enough
  have shifted : 2 ^ 52 ≤ num * unit / (den * 2 ^ (quotient.log2 - 52)) := by
    rw [← Nat.div_div_eq_div_mul, Nat.le_div_iff_mul_le (Nat.two_pow_pos _), ← Nat.pow_add]
    have exponent : 52 + (quotient.log2 - 52) = quotient.log2 := by omega
    rw [exponent]
    exact Nat.log2_self_le nonzero
  have rounded := Nat.le_trans shifted (div_le_roundHalfEven _ _)
  have binades : 2046 * binade ≤ (quotient.log2 - 52) * binade :=
    Nat.mul_le_mul_right _ (by omega)
  calc magnitudes = 2046 * binade + 2 ^ 52 := by decide +kernel
    _ ≤ rankOfRatio num den := Nat.add_le_add binades rounded

/-! ## Magnitudes written out -/

/-- A rank is the exponent of its power of two, counted in binades, and its factor. -/
theorem scale_mul_binade_add_significand (rank : Nat) :
    scale rank * binade + significand rank = rank := by
  have split := Nat.div_add_mod' rank binade
  rw [scale, significand]
  split
  · next small =>
    rw [Nat.div_eq_of_lt small]
    exact Nat.zero_add rank
  · next great =>
    have some_binade : 0 < rank / binade := Nat.div_pos (Nat.not_lt.mp great) binade_pos
    rw [Nat.sub_mul, Nat.one_mul]
    have enough : binade ≤ rank / binade * binade := Nat.le_mul_of_pos_left _ some_binade
    omega

/-- A factor of at least a binade fills its bits. -/
theorem log2_steps (rank : Nat) : (steps rank).log2 - 52 = scale rank := by
  rw [steps, significand]
  split
  · next small =>
    have none : scale rank = 0 := by rw [scale, Nat.div_eq_of_lt small]
    have short : rank.log2 ≤ 52 := by
      rcases Nat.eq_zero_or_pos rank with rfl | positive
      · decide
      · exact Nat.le_of_lt ((Nat.log2_lt (Nat.ne_of_gt positive)).mpr small)
    rw [none, Nat.pow_eq, Nat.pow_zero, Nat.mul_one]
    exact Nat.sub_eq_zero_of_le short
  · next great =>
    have rest : rank % binade < binade := Nat.mod_lt rank binade_pos
    have filled : ((binade + rank % binade) * 2 ^ scale rank).log2 = 52 + scale rank := by
      have nonzero : (binade + rank % binade) * 2 ^ scale rank ≠ 0 :=
        Nat.mul_ne_zero (by omega) (Nat.ne_of_gt (Nat.two_pow_pos _))
      refine (Nat.log2_eq_iff nonzero).mpr ⟨?_, ?_⟩
      · rw [Nat.pow_add]
        exact Nat.mul_le_mul_right _ (Nat.le_add_right binade _)
      · have bits : 52 + scale rank + 1 = 53 + scale rank := by omega
        have below : binade + rank % binade < 2 ^ 53 := by
          have double : 2 ^ 53 = binade + binade := by decide +kernel
          omega
        rw [bits, Nat.pow_add]
        exact Nat.mul_lt_mul_of_pos_right below (Nat.two_pow_pos _)
    rw [Nat.pow_eq, filled, Nat.add_sub_cancel_left]

/-- A magnitude is its own nearest one. -/
theorem rankOfRatio_steps (rank : Nat) : rankOfRatio (steps rank) unit = rank := by
  have quotient : steps rank * unit / unit = steps rank := Nat.mul_div_cancel _ unit_pos
  have whole : roundHalfEven (steps rank * unit) (unit * Nat.pow 2 (scale rank)) =
      significand rank := by
    rw [Nat.mul_comm unit, roundHalfEven_mul_right unit_pos, steps]
    exact roundHalfEven_mul_self _ (Nat.two_pow_pos (scale rank))
  simp only [rankOfRatio, quotient, log2_steps, whole]
  exact scale_mul_binade_add_significand rank

/-! ## Decimals -/

/-- The rank nearest to a decimal. -/
def rankOfDecimal (coefficient : Nat) (exponent : Int) : Nat :=
  rankOfRatio (coefficient * 10 ^ exponent.toNat) (10 ^ (-exponent).toNat)

theorem rankOfDecimal_scale (coefficient k : Nat) (exponent : Int) :
    rankOfDecimal (coefficient * 10 ^ k) exponent = rankOfDecimal coefficient (exponent + k) := by
  refine rankOfRatio_congr (Nat.pow_pos (by decide)) (Nat.pow_pos (by decide)) ?_
  have exponents : k + exponent.toNat + (-(exponent + k)).toNat =
      (exponent + k).toNat + (-exponent).toNat := by omega
  rw [Nat.mul_assoc, Nat.mul_assoc, Nat.mul_assoc, ← Nat.pow_add, ← Nat.pow_add, ← Nat.pow_add,
    ← Nat.add_assoc, exponents]

/-- Powers of two are compared with powers of ten factor by factor. -/
theorem two_pow_le_ten_pow {a b : Nat} (factor : 2 ^ a ≤ 10 ^ b) {k n m : Nat} (enough : n ≤ a * k)
    (within : b * k ≤ m) : 2 ^ n ≤ 10 ^ m :=
  calc 2 ^ n ≤ 2 ^ (a * k) := Nat.pow_le_pow_right (by decide) enough
    _ = (2 ^ a) ^ k := Nat.pow_mul 2 a k
    _ ≤ (10 ^ b) ^ k := Nat.pow_le_pow_left factor k
    _ = 10 ^ (b * k) := (Nat.pow_mul 10 b k).symm
    _ ≤ 10 ^ m := Nat.pow_le_pow_right (by decide) within

theorem rankOfDecimal_of_small {coefficient : Nat} {exponent : Int}
    (small : coefficient = 0 ∨ coefficient.log2 + 1 + exponent < -330) :
    rankOfDecimal coefficient exponent = 0 := by
  refine rankOfRatio_of_small ?_
  rcases small with rfl | small
  · rw [Nat.zero_mul, Nat.zero_mul]
    exact Nat.pow_pos (by decide)
  · obtain ⟨m, size⟩ : ∃ m : Nat, (-exponent).toNat = m + 331 + (coefficient.log2 + 1) :=
      ⟨(-exponent).toNat - 331 - (coefficient.log2 + 1), by omega⟩
    have none : exponent.toNat = 0 := by omega
    have digits : coefficient < 10 ^ (coefficient.log2 + 1) :=
      Nat.lt_of_lt_of_le Nat.lt_log2_self (Nat.pow_le_pow_left (by decide) _)
    rw [none, Nat.pow_zero, Nat.mul_one, size, Nat.pow_add]
    have units : 2 * unit ≤ 10 ^ (m + 331) := by
      obtain ⟨bits, all⟩ : ∃ bits, bits = 1074 := ⟨_, rfl⟩
      have enough : bits + 1 ≤ 215 * 5 := by omega
      have within : 66 * 5 ≤ m + 331 := by omega
      rw [unit_eq all, ← Nat.pow_succ']
      exact two_pow_le_ten_pow (by decide) enough within
    calc 2 * (coefficient * unit) = coefficient * (2 * unit) := by ring
      _ < 10 ^ (coefficient.log2 + 1) * 10 ^ (m + 331) :=
        Nat.mul_lt_mul_of_lt_of_le digits units (Nat.pow_pos (by decide))
      _ = 10 ^ (m + 331) * 10 ^ (coefficient.log2 + 1) := Nat.mul_comm _ _

theorem magnitudes_le_rankOfDecimal {coefficient : Nat} {exponent : Int}
    (some_digit : coefficient ≠ 0) (great : 310 < exponent) :
    magnitudes ≤ rankOfDecimal coefficient exponent := by
  refine magnitudes_le_rankOfRatio (Nat.pow_pos (by decide)) ?_
  have none : (-exponent).toNat = 0 := by omega
  have long : 62 * 5 ≤ exponent.toNat := by omega
  rw [none, Nat.pow_zero, Nat.one_mul]
  calc 2 ^ 1024 ≤ 10 ^ exponent.toNat :=
      two_pow_le_ten_pow (by decide : 2 ^ 205 ≤ 10 ^ 62) (by decide : 1024 ≤ 205 * 5) long
    _ ≤ coefficient * 10 ^ exponent.toNat :=
      Nat.le_mul_of_pos_left _ (Nat.pos_of_ne_zero some_digit)

/-- The cut-offs of reading a decimal are no more than shortcuts. -/
theorem ofDecimal_eq (negative : Bool) (coefficient : Nat) (exponent : Int) :
    ofDecimal negative coefficient exponent =
      ofRank negative (rankOfDecimal coefficient exponent) := by
  unfold ofDecimal
  split
  · next small => rw [rankOfDecimal_of_small small]
  next cut =>
  rw [not_or] at cut
  split
  · next great =>
    rw [ofRank, dif_neg (Nat.not_lt.mpr (magnitudes_le_rankOfDecimal cut.1 great))]
  · cases exponent with
    | ofNat e =>
      have none : (-Int.ofNat e).toNat = 0 := Int.toNat_neg_natCast e
      rw [rankOfDecimal, none]
      rfl
    | negSucc e =>
      rw [rankOfDecimal, Int.toNat_negSucc, Nat.pow_zero, Nat.mul_one]
      rfl

theorem ofDecimal_scale (negative : Bool) (coefficient k : Nat) (exponent : Int) :
    ofDecimal negative (coefficient * 10 ^ k) exponent =
      ofDecimal negative coefficient (exponent + k) := by
  rw [ofDecimal_eq, ofDecimal_eq, rankOfDecimal_scale]

/-! ## The shortest decimal -/

theorem rankOfDecimal_of_readsAs {d : Decimal} {rank : Nat} (finite : rank < magnitudes)
    (reads : d.readsAs rank = true) : rankOfDecimal d.coefficient d.exponent = rank := by
  have same : ofRank false (rankOfDecimal d.coefficient d.exponent) = ofRank false rank := by
    rw [← ofDecimal_eq]
    exact of_decide_eq_true reads
  rw [ofRank, ofRank, dif_pos finite] at same
  split at same
  · cases same
    rfl
  · cases same

theorem rankOfDecimal_mul_five_pow (num k : Nat) :
    rankOfDecimal (num * Nat.pow 5 k) (-k) = rankOfRatio num (2 ^ k) := by
  refine rankOfRatio_congr (Nat.pow_pos (by decide)) (Nat.two_pow_pos k) ?_
  have none : (-(k : Int)).toNat = 0 := by omega
  have back : (-(-(k : Int))).toNat = k := by omega
  have factors : 10 ^ k = 5 ^ k * 2 ^ k := Nat.mul_pow 5 2 k
  rw [none, back, factors, Nat.pow_zero, Nat.mul_one, ← Nat.mul_assoc]
  rfl

theorem readsAs_exactDecimal (rank : Nat) : (exactDecimal rank).readsAs rank = true := by
  obtain ⟨bits, all⟩ : ∃ bits, bits = 1074 := ⟨_, rfl⟩
  have written := rankOfDecimal_mul_five_pow (steps rank) bits
  have same : (1074 : Int) = bits := by rw [all, Nat.cast_ofNat]
  rw [← unit_eq all, rankOfRatio_steps] at written
  rw [Decimal.readsAs, ofDecimal_eq, exactDecimal, ← all, same, written]
  exact decide_eq_true rfl

/-- Of two decimals one is taken only if it reads back. -/
theorem readsAs_choose? {rank : Nat} {below above d : Decimal} {belowNearer : Bool}
    (found : choose? rank below above belowNearer = some d) : d.readsAs rank = true := by
  rw [choose?] at found
  cases low : below.readsAs rank with
  | true =>
    cases high : above.readsAs rank with
    | true =>
      rw [low, high] at found
      rw [← Option.some.inj found]
      split
      · exact low
      · exact high
    | false =>
      rw [low, high] at found
      rw [← Option.some.inj found, low]
  | false =>
    cases high : above.readsAs rank with
    | true =>
      rw [low, high] at found
      rw [← Option.some.inj found, high]
    | false =>
      rw [low, high] at found
      cases found

theorem readsAs_decimalAt? {rank : Nat} {exponent : Int} {d : Decimal}
    (found : decimalAt? rank exponent = some d) : d.readsAs rank = true := by
  cases exponent with
  | ofNat e => exact readsAs_choose? found
  | negSucc e => exact readsAs_choose? found

theorem readsAs_getD {d? : Option Decimal} {last : Decimal} {rank : Nat}
    (some_reads : ∀ d, d? = some d → d.readsAs rank = true) (last_reads : last.readsAs rank = true) :
    (d?.getD last).readsAs rank = true := by
  cases d? with
  | none => exact last_reads
  | some d => exact some_reads d rfl

theorem readsAs_shortestDecimal (rank : Nat) : (shortestDecimal rank).readsAs rank = true := by
  refine readsAs_getD ?_ (readsAs_exactDecimal rank)
  intro d found
  obtain ⟨n, -, nearest⟩ := List.exists_of_findSome?_eq_some found
  exact readsAs_decimalAt? nearest

/-- The shortest decimal of a magnitude reads back as that magnitude, with either sign. -/
theorem ofDecimal_shortestDecimal (negative : Bool) (rank : Fin magnitudes) :
    ofDecimal negative (shortestDecimal rank).coefficient (shortestDecimal rank).exponent =
      .finite negative rank := by
  rw [ofDecimal_eq, rankOfDecimal_of_readsAs rank.isLt (readsAs_shortestDecimal rank)]
  exact dif_pos rank.isLt

theorem coefficient_shortestDecimal_ne_zero {rank : Fin magnitudes} (positive : rank.val ≠ 0) :
    (shortestDecimal rank).coefficient ≠ 0 := by
  intro none
  have reads := rankOfDecimal_of_readsAs rank.isLt (readsAs_shortestDecimal rank)
  rw [rankOfDecimal_of_small (.inl none)] at reads
  exact positive reads.symm

end SearchTuning.Double
