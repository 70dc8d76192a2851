import Mathlib.Analysis.InnerProductSpace.PiL2
import PersonTracking.AiService.ExactGallery
import PersonTracking.Library.Cosine
import PersonTracking.Library.Transition

/-!
# An embedding that is presented twice

The gallery over the reals: embeddings are vectors, a sample is compared with the
normalised mean of a person's window.

`same_person_twice` says that a unit vector that is presented twice in a row is the same
person both times, and known the second time, unless the first call finds a full window.
There the oldest sample goes, and with it perhaps the resemblance:
`two_persons_when_full` is a run at the threshold of the source.
-/

namespace PersonTracking.AiService

open Library Python

noncomputable section

variable {V : Type} [NormedAddCommGroup V] [InnerProductSpace ℝ V]

/-- `mean_vec` of `average_embeddings`. -/
def meanVec (samples : List V) : V := (samples.length : ℝ)⁻¹ • samples.sum

/-- `1e-12`. -/
def tinyNorm : ℝ := 1 / ((10 ^ 12 : ℕ) : ℝ)

theorem tinyNorm_eq : tinyNorm = 1 / 10 ^ 12 := by
  rw [tinyNorm, Nat.cast_pow, Nat.cast_ofNat]

/-- `average_embeddings`. -/
def averageVector (samples : List V) : V :=
  if ‖meanVec samples‖ < tinyNorm then meanVec samples
  else ‖meanVec samples‖⁻¹ • meanVec samples

/-- `cosine_similarity` with an average. -/
def cosineTo (embedding : V) (samples : List V) : ℝ := inner ℝ embedding (averageVector samples)

variable {e : V} {samples : List V}

/-- A mean that is not tiny is divided by its norm, and the angle is that with the sum. -/
theorem cosineTo_eq_div (nonempty : samples ≠ []) (long : 1 / 10 ^ 12 ≤ ‖meanVec samples‖) :
    cosineTo e samples = inner ℝ e samples.sum / ‖samples.sum‖ := by
  have positive : (0 : ℝ) < samples.length := by
    exact_mod_cast List.length_pos_of_ne_nil nonempty
  rw [cosineTo, averageVector, tinyNorm_eq, if_neg (not_lt.mpr long), meanVec, norm_smul, norm_inv,
    Real.norm_of_nonneg positive.le, smul_smul, inner_smul_right, mul_inv, inv_inv]
  field_simp

/-- A tiny mean is left as it is, and resembles nothing. -/
theorem cosineTo_lt_of_tiny (unit : ‖e‖ = 1) (tiny : ‖meanVec samples‖ < 1 / 10 ^ 12) :
    cosineTo e samples < 1 / 10 ^ 12 := by
  have bound := real_inner_le_norm e (meanVec samples)
  rw [unit, one_mul] at bound
  rw [cosineTo, averageVector, tinyNorm_eq, if_pos tiny]
  exact bound.trans_lt tiny

/-- The average points where the sum points. -/
theorem averageVector_eq_smul (samples : List V) :
    ∃ scale : ℝ, 0 ≤ scale ∧ averageVector samples = scale • samples.sum := by
  have count : (0 : ℝ) ≤ (samples.length : ℝ)⁻¹ := inv_nonneg.mpr (Nat.cast_nonneg _)
  unfold averageVector
  split
  · exact ⟨_, count, rfl⟩
  · exact ⟨_, mul_nonneg (inv_nonneg.mpr (norm_nonneg _)) count, by rw [meanVec, smul_smul]⟩

theorem inner_sum_pos (alike : 0 < cosineTo e samples) : 0 < inner ℝ e samples.sum := by
  obtain ⟨scale, notNegative, average⟩ := averageVector_eq_smul samples
  rw [cosineTo, average, inner_smul_right] at alike
  exact pos_of_mul_pos_right alike notNegative

/-- The norm of a mean, from that of the sum. -/
theorem norm_meanVec (samples : List V) :
    ‖meanVec samples‖ = ‖samples.sum‖ / samples.length := by
  rw [meanVec, norm_smul, norm_inv, Real.norm_natCast, inv_mul_eq_div]

/-- A window with the sample in it has no tiny mean. -/
theorem cosineTo_append (unit : ‖e‖ = 1) (towards : 0 ≤ inner ℝ e samples.sum)
    (short : samples.length < maxEmbeddingsPerPerson) :
    cosineTo e (samples ++ [e]) = inner ℝ e (samples.sum + e) / ‖samples.sum + e‖ := by
  have sum : (samples ++ [e]).sum = samples.sum + e := by simp
  have count : ((samples ++ [e]).length : ℝ) ≤ 10 := by
    rw [List.length_append, List.length_singleton]
    exact_mod_cast Nat.succ_le_of_lt short
  have positive : (0 : ℝ) < (samples ++ [e]).length := by
    rw [List.length_append, List.length_singleton]
    positivity
  have long : 1 / 10 ^ 12 ≤ ‖meanVec (samples ++ [e])‖ := by
    rw [norm_meanVec, sum, le_div_iff₀ positive]
    have norm := one_le_norm_add unit towards
    calc 1 / 10 ^ 12 * ((samples ++ [e]).length : ℝ) ≤ 1 / 10 ^ 12 * 10 := by gcongr
      _ ≤ 1 := by norm_num
      _ ≤ ‖samples.sum + e‖ := norm
  rw [cosineTo_eq_div (by simp) long, sum]

/-- **The resemblance does not fall** when a resembling sample comes into a window. -/
theorem cosineTo_le_append (unit : ‖e‖ = 1) (alike : 0 < cosineTo e samples)
    (short : samples.length < maxEmbeddingsPerPerson) :
    cosineTo e samples ≤ cosineTo e (samples ++ [e]) := by
  have towards := (inner_sum_pos alike).le
  rw [cosineTo_append unit towards short]
  by_cases long : 1 / 10 ^ 12 ≤ ‖meanVec samples‖
  · have nonempty : samples ≠ [] := by
      rintro rfl
      simp [norm_meanVec] at long
      linarith
    rw [cosineTo_eq_div nonempty long]
    exact div_norm_le_div_norm_add unit towards
  · have tiny := not_le.mp long
    have low := cosineTo_lt_of_tiny unit tiny
    have count : (samples.length : ℝ) ≤ 10 := by exact_mod_cast short.le
    have small : ‖samples.sum‖ ≤ 1 := by
      rw [norm_meanVec] at tiny
      have notNegative : (0 : ℝ) ≤ samples.length := Nat.cast_nonneg _
      rcases notNegative.eq_or_lt with zero | positive
      · have none : samples = [] := List.length_eq_zero_iff.mp (by exact_mod_cast zero.symm)
        simp [none]
      · rw [div_lt_iff₀ positive] at tiny
        nlinarith
    have high := half_le_div_norm_add unit towards small
    linarith

/-- A new person resembles its sample. -/
theorem cosineTo_singleton (unit : ‖e‖ = 1) : cosineTo e [e] = 1 := by
  have alone : cosineTo e ([] ++ [e]) = inner ℝ e ([].sum + e) / ‖[].sum + e‖ :=
    cosineTo_append unit (by simp) (Nat.succ_pos 9)
  rwa [List.nil_append, List.sum_nil, zero_add, unit, real_inner_self_eq_norm_sq, unit, one_pow,
    div_one] at alone

/-! ## Two calls -/

variable {gallery : ExactGallery V ℝ} {person minted : Uuid}

/-- A person that becomes more alike is still the first of the most alike. -/
theorem firstGreatest_store {w : List V}
    (first : FirstGreatest (ExactGallery.similarityTo cosineTo e) gallery.persons.entries
      (person, samples))
    (rises : cosineTo e samples ≤ cosineTo e w) :
    FirstGreatest (ExactGallery.similarityTo cosineTo e) (gallery.store person w).persons.entries
      (person, w) := by
  obtain ⟨before, after, split, below, atMost⟩ := first
  have notMem : person ∉ before.map Prod.fst := by
    have nodup := gallery.persons.nodup
    rw [split, List.map_append, List.map_cons, List.nodup_append] at nodup
    exact fun member => nodup.2.2 person member person List.mem_cons_self rfl
  refine ⟨before, after, ?_, fun entry member => (below entry member).trans_le rises,
    fun entry member => (atMost entry member).trans rises⟩
  show OrderedDict.assign person w gallery.persons.entries = _
  rw [split, OrderedDict.assign_of_split notMem]

/-- A new person is the first of the most alike, where nobody reaches a threshold of one or
less. -/
theorem firstGreatest_new (unit : ‖e‖ = 1) (fresh : minted ∉ gallery.persons.keys)
    (low : ∀ entry ∈ gallery.persons.entries, cosineTo e entry.2 < 1) :
    FirstGreatest (ExactGallery.similarityTo cosineTo e)
      (gallery.store minted [e]).persons.entries (minted, [e]) := by
  refine ⟨gallery.persons.entries, [], ?_, fun entry member => ?_, fun _ member => by cases member⟩
  · exact OrderedDict.entries_set_of_notMem fresh
  · exact (low entry member).trans_eq (cosineTo_singleton unit).symm

/-- A call finds whoever is first of the most alike and reaches the threshold. -/
theorem matchOrCreate_of_firstGreatest {minted : Uuid} (positive : 0 < gallery.threshold)
    (first : FirstGreatest (ExactGallery.similarityTo cosineTo e) gallery.persons.entries
      (person, samples))
    (reached : gallery.threshold ≤ cosineTo e samples) :
    gallery.matchOrCreate cosineTo (-1) minted e =
      ((person, false), gallery.store person (slideWindow samples e)) := by
  rcases ExactGallery.matchOrCreate_cases cosineTo minted e
    (neg_one_lt_zero.trans positive) with ⟨other, window, called, other', -⟩ | ⟨-, low⟩
  · obtain ⟨rfl, rfl⟩ := Prod.mk.inj (other'.unique first)
    exact called
  · exact absurd (low _ first.mem) (not_lt.mpr reached)

/-- **The same person twice.**  A unit vector that is presented twice in a row is returned
as the same person both times and as known the second time, unless the first call finds a
person whose window is full. -/
theorem same_person_twice (gallery : ExactGallery V ℝ) {e : V} {minted again : Uuid}
    (positive : 0 < gallery.threshold) (below : gallery.threshold < 1) (unit : ‖e‖ = 1)
    (fresh : minted ∉ gallery.persons.keys)
    (room : ∀ person samples, (gallery.matchOrCreate cosineTo (-1) minted e).1 = (person, false) →
      gallery.persons.get? person = some samples → samples.length < maxEmbeddingsPerPerson) :
    ((gallery.matchOrCreate cosineTo (-1) minted e).2.matchOrCreate cosineTo (-1) again e).1 =
      ((gallery.matchOrCreate cosineTo (-1) minted e).1.1, false) := by
  rcases ExactGallery.matchOrCreate_cases cosineTo minted e (neg_one_lt_zero.trans positive) with
    ⟨person, samples, called, first, reached⟩ | ⟨called, low⟩
  · have short := room person samples (by rw [called]) (OrderedDict.get?_of_mem first.mem)
    have window : slideWindow samples e = samples ++ [e] := by
      refine if_neg (not_lt.mpr ?_)
      rw [List.length_append, List.length_singleton]
      exact short
    have rises := cosineTo_le_append unit (positive.trans_le reached) short
    rw [called, window]
    have found : (gallery.store person (samples ++ [e])).matchOrCreate cosineTo (-1) again e = _ :=
      matchOrCreate_of_firstGreatest positive (firstGreatest_store first rises)
        (reached.trans rises)
    rw [found]
  · rw [called]
    have first := firstGreatest_new unit fresh fun entry member => (low entry member).trans below
    have found : (gallery.store minted [e]).matchOrCreate cosineTo (-1) again e = _ :=
      matchOrCreate_of_firstGreatest positive first
        (below.le.trans_eq (cosineTo_singleton unit).symm)
    rw [found]

/-! ## Vectors of the plane -/

/-- The vector with these coordinates, in units of a twenty-fifth. -/
def planeVector (x : ℤ × ℤ) : EuclideanSpace ℝ (Fin 2) := !₂[(x.1 : ℝ) / 25, (x.2 : ℝ) / 25]

/-- The inner product, in units of a twenty-fifth of a twenty-fifth. -/
def dot (x y : ℤ × ℤ) : ℤ := x.1 * y.1 + x.2 * y.2

theorem inner_planeVector (x y : ℤ × ℤ) :
    inner ℝ (planeVector x) (planeVector y) = (dot x y : ℝ) / 625 := by
  simp [planeVector, dot, PiLp.inner_apply, Fin.sum_univ_two]
  ring

theorem norm_planeVector (x : ℤ × ℤ) : ‖planeVector x‖ ^ 2 = (dot x x : ℝ) / 625 := by
  rw [← real_inner_self_eq_norm_sq, inner_planeVector]

theorem sum_map_planeVector (samples : List (ℤ × ℤ)) :
    (samples.map planeVector).sum = planeVector samples.sum := by
  induction samples with
  | nil => ext i; fin_cases i <;> simp [planeVector]
  | cons x samples ih =>
      rw [List.map_cons, List.sum_cons, ih, List.sum_cons]
      ext i
      fin_cases i <;> simp [planeVector] <;> ring

/-- A vector of the plane resembles the sum of some others by three quarters. -/
def Near (samples : List (ℤ × ℤ)) (x : ℤ × ℤ) : Prop :=
  0 < dot x samples.sum ∧ 5625 * dot samples.sum samples.sum ≤ 16 * dot x samples.sum ^ 2

instance (samples : List (ℤ × ℤ)) (x : ℤ × ℤ) : Decidable (Near samples x) :=
  inferInstanceAs (Decidable (_ ∧ _))

/-- **Near in integers** is near in the reals. -/
theorem near_iff {samples : List (ℤ × ℤ)} {x : ℤ × ℤ} (nonempty : samples ≠ [])
    (short : samples.length ≤ 10) (long : 0 < dot samples.sum samples.sum) :
    3 / 4 ≤ cosineTo (planeVector x) (samples.map planeVector) ↔ Near samples x := by
  have square : ‖planeVector samples.sum‖ ^ 2 = (dot samples.sum samples.sum : ℝ) / 625 :=
    norm_planeVector samples.sum
  have one : (1 : ℝ) ≤ dot samples.sum samples.sum := by exact_mod_cast long
  have norm : 1 / 25 ≤ ‖planeVector samples.sum‖ := by
    refine le_of_sq_le_sq ?_ (norm_nonneg _)
    rw [square]
    linarith
  have count : ((samples.map planeVector).length : ℝ) ≤ 10 := by
    rw [List.length_map]
    exact_mod_cast short
  have positive : (0 : ℝ) < (samples.map planeVector).length := by
    rw [List.length_map]
    exact_mod_cast List.length_pos_of_ne_nil nonempty
  have notTiny : 1 / 10 ^ 12 ≤ ‖meanVec (samples.map planeVector)‖ := by
    rw [norm_meanVec, sum_map_planeVector, le_div_iff₀ positive]
    linarith
  rw [cosineTo_eq_div (by simpa using nonempty) notTiny, sum_map_planeVector, inner_planeVector,
    le_div_iff₀ (by linarith)]
  constructor
  · intro reached
    have towards : (0 : ℝ) < dot x samples.sum := by linarith
    refine ⟨by exact_mod_cast towards, ?_⟩
    have squares : (3 / 4 * ‖planeVector samples.sum‖) ^ 2 ≤ ((dot x samples.sum : ℝ) / 625) ^ 2 :=
      pow_le_pow_left₀ (by positivity) reached 2
    rw [mul_pow, square] at squares
    have real : (5625 : ℝ) * dot samples.sum samples.sum ≤ 16 * (dot x samples.sum : ℝ) ^ 2 := by
      linarith
    exact_mod_cast real
  · rintro ⟨towards, squares⟩
    have towards : (0 : ℝ) < dot x samples.sum := by exact_mod_cast towards
    have real : (5625 : ℝ) * dot samples.sum samples.sum ≤ 16 * (dot x samples.sum : ℝ) ^ 2 := by
      exact_mod_cast squares
    refine le_of_sq_le_sq ?_ (by positivity)
    rw [mul_pow, square]
    linarith

/-! ## Two persons -/

/-- A gallery of one person. -/
def alone (samples : List (ℤ × ℤ)) : ExactGallery (EuclideanSpace ℝ (Fin 2)) ℝ where
  threshold := 3 / 4
  persons := ⟨[(.ofNat 1, samples.map planeVector)], List.nodup_singleton _⟩

theorem firstGreatest_alone (samples : List (ℤ × ℤ)) (x : ℤ × ℤ) :
    FirstGreatest (ExactGallery.similarityTo cosineTo (planeVector x))
      (alone samples).persons.entries (.ofNat 1, samples.map planeVector) :=
  ⟨[], [], rfl, by simp, by simp⟩

theorem map_slideWindow (samples : List (ℤ × ℤ)) (x : ℤ × ℤ) :
    slideWindow (samples.map planeVector) (planeVector x) =
      (slideWindow samples x).map planeVector := by
  unfold slideWindow
  rw [apply_ite (List.map planeVector), List.map_tail, List.map_append, List.map_singleton]
  simp only [List.length_append, List.length_map, List.length_singleton]

/-- **A near vector** goes into the window of the one person. -/
theorem matchOrCreate_alone {samples : List (ℤ × ℤ)} {x : ℤ × ℤ} (minted : Uuid)
    (nonempty : samples ≠ []) (short : samples.length ≤ 10) (long : 0 < dot samples.sum samples.sum)
    (near : Near samples x) :
    (alone samples).matchOrCreate cosineTo (-1) minted (planeVector x) =
      ((.ofNat 1, false), alone (slideWindow samples x)) := by
  have positive : 0 < (alone samples).threshold := by norm_num [alone]
  rw [matchOrCreate_of_firstGreatest positive (firstGreatest_alone samples x)
    ((near_iff nonempty short long).mpr near), map_slideWindow]
  simp [ExactGallery.store, alone, OrderedDict.set, OrderedDict.assign]

/-- The vectors come near one after the other. -/
def Follows : List (ℤ × ℤ) → List (ℤ × ℤ) → Prop
  | _, [] => True
  | samples, x :: later =>
      (0 < dot samples.sum samples.sum ∧ Near samples x) ∧ Follows (samples ++ [x]) later

instance Follows.decidable : ∀ samples later, Decidable (Follows samples later)
  | _, [] => isTrue trivial
  | samples, x :: later =>
      haveI := Follows.decidable (samples ++ [x]) later
      inferInstanceAs (Decidable (_ ∧ _))

theorem runFrom_alone {samples later : List (ℤ × ℤ)} (nonempty : samples ≠ [])
    (short : samples.length + later.length ≤ 10) (follows : Follows samples later) :
    runFrom (ExactGallery.step cosineTo (-1)) (alone samples)
      (later.map fun x => (.ofNat 2, planeVector x)) = some (alone (samples ++ later)) := by
  induction later generalizing samples with
  | nil => rw [List.append_nil, List.map_nil, runFrom_nil]
  | cons x later ih =>
      rw [List.length_cons] at short
      obtain ⟨⟨long, near⟩, follows⟩ := follows
      have window : slideWindow samples x = samples ++ [x] := by
        refine if_neg (not_lt.mpr ?_)
        rw [List.length_append, List.length_singleton]
        show _ ≤ 10
        omega
      have fresh : Uuid.ofNat 2 ∉ (alone samples).persons.keys := by
        simp [alone, OrderedDict.keys]
        decide
      have moved : ExactGallery.step cosineTo (-1) (alone samples) (.ofNat 2, planeVector x) =
          some (alone (samples ++ [x])) := by
        rw [ExactGallery.step, if_neg fresh, matchOrCreate_alone _ nonempty (by omega) long near,
          window]
      rw [List.map_cons, runFrom_cons, moved, Option.bind_some, ih (by simp) ?_ follows,
        List.append_assoc, List.singleton_append]
      rw [List.length_append, List.length_singleton]
      omega

theorem norm_planeVector_eq_one {x : ℤ × ℤ} (unit : dot x x = 625) : ‖planeVector x‖ = 1 := by
  have square : ‖planeVector x‖ ^ 2 = 1 := by
    rw [norm_planeVector, unit]
    norm_num
  exact (pow_eq_one_iff_of_nonneg (norm_nonneg _) two_ne_zero).mp square

/-- Ten looks of one person who turns away from the first. -/
def turning : List (ℤ × ℤ) :=
  [(24, -7), (24, 7), (20, 15), (20, 15), (20, 15), (20, 15), (15, 20), (15, 20), (7, 24), (7, 24)]

/-- Their calls. -/
def turningCalls : List (Uuid × EuclideanSpace ℝ (Fin 2)) :=
  (.ofNat 1, planeVector (24, -7)) ::
    (turning.tail.map fun x => (.ofNat 2, planeVector x))

theorem runFrom_turningCalls :
    runFrom (ExactGallery.step cosineTo (-1)) (ExactGallery.empty (3 / 4)) turningCalls =
      some (alone turning) := by
  have first : ExactGallery.step cosineTo (-1) (ExactGallery.empty (3 / 4))
      (.ofNat 1, planeVector (24, -7)) = some (alone [(24, -7)]) := rfl
  rw [turningCalls, runFrom_cons, first, Option.bind_some]
  exact runFrom_alone (List.cons_ne_nil _ _) (by decide) (by decide)

/-- **Two persons**: after ten looks of one person, each a unit vector, a look between them
is that person at the first call, which drops the first look; at the second call it is
somebody new. -/
theorem two_persons_when_full : ∃ gallery : ExactGallery (EuclideanSpace ℝ (Fin 2)) ℝ, ∃ e,
    (∀ call ∈ turningCalls, ‖call.2‖ = 1) ∧
      runFrom (ExactGallery.step cosineTo (-1)) (ExactGallery.empty (3 / 4)) turningCalls =
        some gallery ∧
      ‖e‖ = 1 ∧
      (gallery.matchOrCreate cosineTo (-1) (.ofNat 2) e).1 = (.ofNat 1, false) ∧
      ((gallery.matchOrCreate cosineTo (-1) (.ofNat 2) e).2.matchOrCreate cosineTo (-1)
        (.ofNat 2) e).1 = (.ofNat 2, true) := by
  have units : ∀ call ∈ turningCalls, ‖call.2‖ = 1 := by
    have integers : ∀ x ∈ turning, dot x x = 625 := by decide
    intro call member
    rcases List.mem_cons.mp member with rfl | later
    · exact norm_planeVector_eq_one (by decide)
    · obtain ⟨x, inside, rfl⟩ := List.mem_map.mp later
      exact norm_planeVector_eq_one (integers x (List.mem_of_mem_tail inside))
  have found : (alone turning).matchOrCreate cosineTo (-1) (.ofNat 2) (planeVector (25, 0)) =
      ((.ofNat 1, false), alone (slideWindow turning (25, 0))) :=
    matchOrCreate_alone _ (List.cons_ne_nil _ _) (by decide) (by decide) (by decide)
  refine ⟨alone turning, planeVector (25, 0), units, runFrom_turningCalls,
    norm_planeVector_eq_one (by decide), congrArg Prod.fst found, ?_⟩
  rw [found]
  have far : ¬ 3 / 4 ≤ cosineTo (planeVector (25, 0))
      ((slideWindow turning (25, 0)).map planeVector) := by
    rw [near_iff (by decide) (by decide) (by decide)]
    decide
  rcases ExactGallery.matchOrCreate_cases cosineTo (.ofNat 2) (planeVector (25, 0))
    (show -1 < (alone (slideWindow turning (25, 0))).threshold by norm_num [alone]) with
    ⟨person, samples, -, first, reached⟩ | ⟨called, -⟩
  · have same := List.mem_singleton.mp first.mem
    rw [(Prod.mk.inj same).2] at reached
    exact absurd reached far
  · rw [called]

/-- A person known from two looks, looked at from between them: both calls find it. -/
theorem same_person_twice_known :
    ((alone [(24, -7), (24, 7)]).matchOrCreate cosineTo (-1) (.ofNat 2) (planeVector (25, 0))).1 =
        (.ofNat 1, false) ∧
      (((alone [(24, -7), (24, 7)]).matchOrCreate cosineTo (-1) (.ofNat 2)
        (planeVector (25, 0))).2.matchOrCreate cosineTo (-1) (.ofNat 3) (planeVector (25, 0))).1 =
          (.ofNat 1, false) := by
  have found : (alone [(24, -7), (24, 7)]).matchOrCreate cosineTo (-1) (.ofNat 2)
      (planeVector (25, 0)) =
        ((.ofNat 1, false), alone (slideWindow [(24, -7), (24, 7)] (25, 0))) :=
    matchOrCreate_alone _ (List.cons_ne_nil _ _) (by decide) (by decide) (by decide)
  refine ⟨congrArg Prod.fst found, ?_⟩
  rw [same_person_twice (alone [(24, -7), (24, 7)]) (by norm_num [alone]) (by norm_num [alone])
    (norm_planeVector_eq_one (by decide)) ?_ ?_, found]
  · simp [alone, OrderedDict.keys]
    decide
  · intro person samples called stored
    rw [found] at called
    cases called
    cases stored
    decide

end

end PersonTracking.AiService
