import FederatedStorage.Proofs.Placement.Candidates
import Mathlib.Algebra.GroupWithZero.Nat
import Mathlib.Data.FinEnum
import Mathlib.Data.Fintype.BigOperators
import Mathlib.Order.Interval.Finset.Nat
import Mathlib.Tactic.Ring

/-!
# Fair ties

A drawn word is multiplied by the number `n` of the clusters that qualify. The high half of the product
names a place among them, and the word is accepted for this place if the low half is among the first
`n * 2 ^ leadingZeros n` numbers. So the accepted products are the multiples of `n` in stretches, one for
each place, whose length is a multiple of `n`: wherever a stretch begins, it has `2 ^ leadingZeros n`
multiples of `n` in it.

A refused word is followed by the next one, and the first that is accepted decides. Over all lists of `k`
words this keeps the balance: the lists that decide are shared out evenly, and what is left over are the
lists of refused words alone.

## Main statements

* `Placement.card_electing`: how many words elect a cluster.
* `Placement.card_decided`: how many lists of words do.
* `Placement.allocate_of_firstAt`: a placement follows the words that are drawn.
* `Placement.ties_uniform`: ties are uniform.
-/

namespace FederatedStorage.Placement

variable {ids : List String} {id : String} {n i : Nat}

/-! ## Words for a place -/

/-- A stretch is half as long as there are words at least, and no longer than that. -/
theorem stretch_bounds (hn : 0 < n) (hlt : n < 2 ^ 64) :
    2 ^ 63 ≤ n * 2 ^ leadingZeros n ∧ n * 2 ^ leadingZeros n ≤ 2 ^ 64 := by
  have hne : n ≠ 0 := Nat.ne_of_gt hn
  have hlog : n.log2 < 64 := (Nat.log2_lt hne).mpr hlt
  have hzeros : leadingZeros n = 63 - n.log2 := by simp [leadingZeros, hne]
  rw [hzeros]
  constructor
  · calc 2 ^ 63 = 2 ^ n.log2 * 2 ^ (63 - n.log2) := by rw [← Nat.pow_add]; congr 1; omega
      _ ≤ n * 2 ^ (63 - n.log2) := Nat.mul_le_mul_right _ (Nat.log2_self_le hne)
  · calc n * 2 ^ (63 - n.log2) ≤ 2 ^ (n.log2 + 1) * 2 ^ (63 - n.log2) :=
          Nat.mul_le_mul_right _ (Nat.le_of_lt Nat.lt_log2_self)
      _ = 2 ^ 64 := by rw [← Nat.pow_add]; congr 1; omega

/-- **A word is accepted for a place** if its product with `n` is in the place's stretch. -/
theorem accepts_choice_iff (hn : 0 < n) (hlt : n < 2 ^ 64) (word : UInt64) :
    (accepts n word = true ∧ choice n word = i) ↔
      i * 2 ^ 64 ≤ word.toNat * n ∧ word.toNat * n < i * 2 ^ 64 + n * 2 ^ leadingZeros n := by
  obtain ⟨hleast, hmost⟩ := stretch_bounds hn hlt
  have hzone : zone n = n * 2 ^ leadingZeros n - 1 := rfl
  have hsize : UInt64.size = 2 ^ 64 := rfl
  rw [accepts, choice, decide_eq_true_eq, hzone, hsize]
  constructor
  · rintro ⟨hle, rfl⟩
    omega
  · rintro ⟨hge, hless⟩
    omega

/-- The least word whose product with `n` comes up to a place. -/
def leastWord (n i : Nat) : Nat := (i * 2 ^ 64 + (n - 1)) / n

theorem leastWord_le_iff (hn : 0 < n) {m : Nat} : leastWord n i ≤ m ↔ i * 2 ^ 64 ≤ m * n := by
  rw [leastWord, ← Nat.lt_succ_iff, Nat.div_lt_iff_lt_mul hn, Nat.succ_mul]
  omega

/-- **The words for a place** follow each other. -/
theorem stretch_iff (hn : 0 < n) {m : Nat} :
    (i * 2 ^ 64 ≤ m * n ∧ m * n < i * 2 ^ 64 + n * 2 ^ leadingZeros n) ↔
      leastWord n i ≤ m ∧ m < leastWord n i + 2 ^ leadingZeros n := by
  rw [leastWord_le_iff hn]
  refine and_congr_right fun hge => ?_
  by_cases hsmall : m < 2 ^ leadingZeros n
  · have hprod : m * n < n * 2 ^ leadingZeros n := by
      rw [Nat.mul_comm n]
      exact Nat.mul_lt_mul_of_pos_right hsmall hn
    constructor <;> intro <;> omega
  · -- a number beyond the first ones of all places is compared by how far it is beyond
    obtain ⟨k, rfl⟩ := Nat.exists_eq_add_of_le (Nat.le_of_not_lt hsmall)
    have hbound := leastWord_le_iff (i := i) (m := k) hn
    rw [Nat.add_mul, Nat.mul_comm n]
    omega

/-- **As many words for each place.** -/
theorem card_accepted (hlt : n < 2 ^ 64) (hi : i < n) :
    (Finset.univ.filter fun word : UInt64 => accepts n word = true ∧ choice n word = i).card =
      2 ^ leadingZeros n := by
  have hn : 0 < n := Nat.zero_lt_of_lt hi
  have himage : (Finset.univ.filter fun word : UInt64 =>
      accepts n word = true ∧ choice n word = i).image UInt64.toNat =
        Finset.Ico (leastWord n i) (leastWord n i + 2 ^ leadingZeros n) := by
    ext m
    simp only [Finset.mem_image, Finset.mem_filter, Finset.mem_univ, true_and, Finset.mem_Ico,
      accepts_choice_iff hn hlt, ← stretch_iff hn]
    constructor
    · rintro ⟨word, hword, rfl⟩
      exact hword
    · intro hm
      -- the stretch ends before the next place does, so that all its products are those of words
      have hword : m < 2 ^ 64 := by
        refine Nat.lt_of_mul_lt_mul_right (a := n) ?_
        calc m * n < i * 2 ^ 64 + n * 2 ^ leadingZeros n := hm.2
          _ ≤ i * 2 ^ 64 + 2 ^ 64 := Nat.add_le_add_left (stretch_bounds hn hlt).2 _
          _ = (i + 1) * 2 ^ 64 := (Nat.succ_mul i _).symm
          _ ≤ n * 2 ^ 64 := Nat.mul_le_mul_right _ hi
          _ = 2 ^ 64 * n := Nat.mul_comm _ _
      have hback := UInt64.toNat_ofNat_of_lt' hword
      exact ⟨UInt64.ofNat m, by rwa [hback], hback⟩
  have hinj : Function.Injective UInt64.toNat := fun _ _ => UInt64.toNat_inj.mp
  rw [← Finset.card_image_of_injective _ hinj, himage, Nat.card_Ico, Nat.add_sub_cancel_left]

/-! ## Elections -/

/-- **The cluster that a word elects**, unless the word is refused. -/
def elected (ids : List String) (word : UInt64) : Option String :=
  if accepts ids.length word then ids[choice ids.length word]? else none

/-- **The cluster that the first accepted word elects.** -/
def firstElected (ids : List String) (words : List UInt64) : Option String :=
  (words.find? (accepts ids.length)).bind (elected ids)

theorem elected_eq_none_iff (hne : ids ≠ []) {word : UInt64} :
    elected ids word = none ↔ accepts ids.length word = false := by
  have hchoice := choice_lt (List.length_pos_iff.mpr hne) word
  unfold elected
  split
  · next h => simp [h, hchoice]
  · next h => simp [h]

theorem mem_of_elected {word : UInt64} (h : elected ids word = some id) : id ∈ ids := by
  unfold elected at h
  split at h
  · exact List.mem_of_getElem? h
  · cases h

/-- The words that elect a cluster. -/
def electing (ids : List String) (id : String) : Finset UInt64 :=
  Finset.univ.filter fun word => elected ids word = some id

/-- The words that are accepted. -/
def admitted (n : Nat) : Finset UInt64 := Finset.univ.filter fun word => accepts n word = true

/-- The words that are refused. -/
def refused (n : Nat) : Finset UInt64 := Finset.univ.filter fun word => accepts n word = false

/-- **As many words elect one cluster** as any other. -/
theorem card_electing (hnodup : ids.Nodup) (hlt : ids.length < 2 ^ 64) (hid : id ∈ ids) :
    (electing ids id).card = 2 ^ leadingZeros ids.length := by
  obtain ⟨i, hi, rfl⟩ := List.getElem_of_mem hid
  rw [← card_accepted hlt hi, electing]
  refine congrArg Finset.card (Finset.filter_congr fun word _ => ?_)
  unfold elected
  split
  · next haccepts =>
    rw [← List.getElem?_eq_getElem hi, eq_comm, List.getElem?_inj hi hnodup, eq_comm]
    simp [haccepts]
  · next hrefused => simp [hrefused]

/-- The words that are accepted are shared out among the places. -/
theorem card_admitted (hn : 0 < n) (hlt : n < 2 ^ 64) :
    (admitted n).card = n * 2 ^ leadingZeros n := by
  have hmaps : Set.MapsTo (choice n) (admitted n) (Finset.range n) := by
    intro word _
    simpa using choice_lt hn word
  have hplace (i : Nat) (hi : i ∈ Finset.range n) :
      ((admitted n).filter fun word => choice n word = i).card = 2 ^ leadingZeros n := by
    rw [admitted, Finset.filter_filter]
    exact card_accepted hlt (Finset.mem_range.mp hi)
  rw [Finset.card_eq_sum_card_fiberwise hmaps, Finset.sum_const_nat hplace, Finset.card_range]

/-- Each word is accepted or refused. -/
theorem card_admitted_add (n : Nat) : (admitted n).card + (refused n).card = 2 ^ 64 := by
  have hsplit := Finset.card_filter_add_card_filter_not (s := Finset.univ) fun word : UInt64 =>
    accepts n word = true
  simpa [admitted, refused, ← FinEnum.card_eq_fintypeCard] using hsplit

/-! ## Lists of words -/

/-- The lists of `k` words whose first accepted word elects a cluster. -/
def deciding (ids : List String) (id : String) (k : Nat) : Finset (Fin k → UInt64) :=
  Finset.univ.filter fun words => firstElected ids (List.ofFn words) = some id

theorem firstElected_cons_eq_some_iff (hne : ids ≠ []) {word : UInt64} {words : List UInt64} :
    firstElected ids (word :: words) = some id ↔ elected ids word = some id ∨
      accepts ids.length word = false ∧ firstElected ids words = some id := by
  unfold firstElected
  rw [List.find?_cons]
  cases haccepts : accepts ids.length word with
  | true => simp
  | false => simp [(elected_eq_none_iff hne).mpr haccepts]

/-- **One word more**: it elects the cluster itself, or it is refused and those after it do. -/
theorem card_deciding_succ (hne : ids ≠ []) (id : String) (k : Nat) :
    (deciding ids id (k + 1)).card =
      (electing ids id).card * (2 ^ 64) ^ k +
        (refused ids.length).card * (deciding ids id k).card := by
  have hsplit : (deciding ids id (k + 1)).card =
      (electing ids id ×ˢ (Finset.univ : Finset (Fin k → UInt64)) ∪
        refused ids.length ×ˢ deciding ids id k).card := by
    refine (Finset.card_equiv (Fin.consEquiv fun _ => UInt64) ?_).symm
    rintro ⟨word, words⟩
    simp [deciding, electing, refused, Fin.consEquiv, firstElected_cons_eq_some_iff hne]
  have hdisjoint : Disjoint (electing ids id ×ˢ (Finset.univ : Finset (Fin k → UInt64)))
      (refused ids.length ×ˢ deciding ids id k) := by
    refine Finset.disjoint_product.mpr (.inl (Finset.disjoint_left.mpr fun word helects href => ?_))
    have hnone := (elected_eq_none_iff hne).mpr (Finset.mem_filter.mp href).2
    rw [(Finset.mem_filter.mp helects).2] at hnone
    cases hnone
  have hall : (Finset.univ : Finset (Fin k → UInt64)).card = (2 ^ 64) ^ k := by
    rw [Finset.card_univ, Fintype.card_pi_const, ← FinEnum.card_eq_fintypeCard,
      FinEnum.card_UInt64]
  rw [hsplit, Finset.card_union_of_disjoint hdisjoint, Finset.card_product, Finset.card_product,
    hall]

/-- What is shared out evenly at the first word and among the later ones is shared out evenly. -/
theorem shared_succ {share left decided total k : Nat} (hfirst : n * share + left = total)
    (hlater : n * decided + left ^ k = total ^ k) :
    n * (share * total ^ k + left * decided) + left ^ (k + 1) = total ^ (k + 1) := by
  calc n * (share * total ^ k + left * decided) + left ^ (k + 1)
      = n * share * total ^ k + left * (n * decided + left ^ k) := by ring
    _ = (n * share + left) * total ^ k := by rw [hlater]; ring
    _ = total ^ (k + 1) := by rw [hfirst]; ring

/-- **Lists of words are shared out evenly** among the clusters, but for the lists of refused words
alone. -/
theorem card_decided (hnodup : ids.Nodup) (hlt : ids.length < 2 ^ 64) (hid : id ∈ ids) (k : Nat) :
    ids.length * (deciding ids id k).card + (refused ids.length).card ^ k = (2 ^ 64) ^ k := by
  have hne : ids ≠ [] := List.ne_nil_of_mem hid
  have hwords := card_admitted_add ids.length
  rw [card_admitted (List.length_pos_of_mem hid) hlt, ← card_electing hnodup hlt hid] at hwords
  induction k with
  | zero => simp [deciding, firstElected]
  | succ k ih =>
    rw [card_deciding_succ hne]
    exact shared_succ hwords ih

/-! ## Draws -/

/-- The next `k` words of a stream. -/
def Draws.upcoming (d : Draws) (k : Nat) : List UInt64 :=
  (List.range k).map fun j => d.word (d.drawn + j)

theorem period_eq : Draws.period = 8 * 2 ^ 64 := rfl

/-- **A stream begins again** after a period. -/
theorem word_add_period (d : Draws) (place : Nat) :
    d.word (place + Draws.period) = d.word place := by
  have hperiod := period_eq
  have hblock : (place + Draws.period) / 8 = place / 8 + 2 ^ 64 := by omega
  have hpair : (place + Draws.period) % 8 = place % 8 := by omega
  have hnumber : UInt64.ofNat (place / 8 + 2 ^ 64) = UInt64.ofNat (place / 8) := by
    rw [← UInt64.toNat_inj, UInt64.toNat_ofNat', UInt64.toNat_ofNat', Nat.add_mod_right]
  rw [Draws.word, Draws.word, hblock, hpair, hnumber]

/-- The place of the first accepted word among those to come. -/
structure FirstAt (d : Draws) (n k : Nat) : Prop where
  accepted : accepts n (d.word (d.drawn + k)) = true
  before : ∀ j < k, accepts n (d.word (d.drawn + j)) = false

/-- The first accepted word comes within a period, or not at all. -/
theorem FirstAt.lt_period {d : Draws} {k : Nat} (h : FirstAt d n k) : k < Draws.period := by
  refine Nat.lt_of_not_le fun hle => ?_
  obtain ⟨j, rfl⟩ := Nat.exists_eq_add_of_le' hle
  have hrefused := h.before j (by rw [period_eq]; omega)
  have hsame := congrArg (accepts n) (word_add_period d (d.drawn + j))
  rw [hrefused, Nat.add_assoc] at hsame
  exact Bool.noConfusion (h.accepted.symm.trans hsame)

theorem pickWithin_eq {d : Draws} {k tries : Nat} (h : FirstAt d n k) (hk : k < tries) :
    d.pickWithin n tries =
      (choice n (d.word (d.drawn + k)), { d with drawn := d.drawn + k + 1 }) := by
  induction tries generalizing d k with
  | zero => cases hk
  | succ tries ih =>
    rw [Draws.pickWithin]
    cases k with
    | zero =>
      have haccepted : accepts n (d.word d.drawn) = true := h.accepted
      simp [haccepted]
    | succ k =>
      have hrefused : accepts n (d.word d.drawn) = false := h.before 0 (Nat.succ_pos k)
      have hplace (j : Nat) : d.drawn + 1 + j = d.drawn + (j + 1) := by omega
      have hnext : FirstAt { d with drawn := d.drawn + 1 } n k := by
        refine ⟨?_, fun j hj => ?_⟩
        · rw [hplace]
          exact h.accepted
        · rw [hplace]
          exact h.before (j + 1) (Nat.succ_lt_succ hj)
      simp only [hrefused, Bool.false_eq_true, if_false, ih hnext (Nat.lt_of_succ_lt_succ hk), hplace]
      rfl

/-- **A choice among several** is that of the first accepted word, however late it comes. -/
theorem choose_of_firstAt {d : Draws} {k : Nat} (hlt : 1 < ids.length)
    (h : FirstAt d ids.length k) :
    choose d ids = (elected ids (d.word (d.drawn + k)), { d with drawn := d.drawn + k + 1 }) := by
  rw [choose_of_lt hlt, Draws.pick, pickWithin_eq h h.lt_period, elected, if_pos h.accepted]

/-- **A placement among several clusters** goes where the first accepted word sends it. -/
theorem allocate_of_firstAt {labels : Keyed Tags} {required : Tags} {d : Draws} {k : Nat}
    (htie : 1 < (qualified labels required).length)
    (hfirst : FirstAt d (qualified labels required).length k)
    (helects : elected (qualified labels required) (d.word (d.drawn + k)) = some id) :
    allocate d labels required = (.ok id, { d with drawn := d.drawn + k + 1 }) := by
  rw [allocate_eq, placeAmong, choose_of_firstAt htie hfirst, helects]
  rfl

/-- **The first accepted word decides** a list of words to come. -/
theorem exists_firstAt {d : Draws} {k : Nat} (h : firstElected ids (d.upcoming k) = some id) :
    ∃ j < k, FirstAt d ids.length j ∧ elected ids (d.word (d.drawn + j)) = some id := by
  obtain ⟨word, hfirst, helects⟩ := Option.bind_eq_some_iff.mp h
  rw [Draws.upcoming, List.find?_map] at hfirst
  obtain ⟨j, hj, rfl⟩ := Option.map_eq_some_iff.mp hfirst
  obtain ⟨haccepted, hmem, hbefore⟩ := List.find?_range_eq_some.mp hj
  exact ⟨j, List.mem_range.mp hmem, ⟨haccepted, by simpa using hbefore⟩, helects⟩

/-- An accepted word elects one of the clusters. -/
theorem exists_elected (hne : ids ≠ []) {word : UInt64} (h : accepts ids.length word = true) :
    ∃ id ∈ ids, elected ids word = some id := by
  cases helects : elected ids word with
  | none => simp [(elected_eq_none_iff hne).mp helects] at h
  | some id => exact ⟨id, mem_of_elected helects, rfl⟩

/-! ## Ties -/

/-- **A fair tie** among clusters, by a placement that draws. -/
structure FairTie (ids : List String) (place : Draws → Except Failure String × Draws) : Prop where
  /-- The placement goes where the first accepted word sends it, and draws no word beyond that. -/
  followed : ∀ d k, FirstAt d ids.length k → ∃ id ∈ ids,
    elected ids (d.word (d.drawn + k)) = some id ∧
      place d = (.ok id, { d with drawn := d.drawn + k + 1 })
  /-- No word elects anything but one of the clusters, -/
  within : ∀ word id, elected ids word = some id → id ∈ ids
  /-- and every accepted word elects one. -/
  refused_iff : ∀ word, elected ids word = none ↔ accepts ids.length word = false
  /-- As many words elect each cluster. -/
  even : ∀ id ∈ ids, (electing ids id).card = 2 ^ leadingZeros ids.length
  /-- Half of all words are accepted at least. -/
  half : 2 ^ 64 ≤ 2 * (admitted ids.length).card
  /-- As many lists of words, of each length, decide for each cluster; none is left over but the lists
  of refused words. -/
  shared : ∀ k, ∀ id ∈ ids,
    ids.length * (deciding ids id k).card + (refused ids.length).card ^ k = (2 ^ 64) ^ k
  /-- A placement is what the next words decide. -/
  decided : ∀ d k id, firstElected ids (d.upcoming k) = some id → (place d).1 = .ok id

/-- **Ties are uniform.** Whatever clusters qualify, the words that are drawn are shared out evenly
among them, and the placement is the one that they elect. -/
theorem ties_uniform (clusters : ClusterRegistry) (required : Tags)
    (htie : 2 ≤ (qualified clusters.labels required).length)
    (hlt : (qualified clusters.labels required).length < 2 ^ 64) :
    FairTie (qualified clusters.labels required) fun d => allocate d clusters.labels required := by
  have hnodup := nodup_of_ascending (qualified_ascending clusters.labels required)
  have hpos : 0 < (qualified clusters.labels required).length := Nat.zero_lt_of_lt htie
  have hne := List.length_pos_iff.mp hpos
  refine ⟨fun d k hfirst => ?_, fun word id => mem_of_elected, fun word => elected_eq_none_iff hne,
    fun id => card_electing hnodup hlt, ?_, fun k id hid => card_decided hnodup hlt hid k,
    fun d k id hdecided => ?_⟩
  · obtain ⟨id, hid, helects⟩ := exists_elected hne hfirst.accepted
    exact ⟨id, hid, helects, allocate_of_firstAt htie hfirst helects⟩
  · have hleast := (stretch_bounds hpos hlt).1
    rw [card_admitted hpos hlt]
    omega
  · obtain ⟨j, -, hfirst, helects⟩ := exists_firstAt hdecided
    rw [allocate_of_firstAt htie hfirst helects]

/-- Three clusters that carry no labels. -/
def threeClusters : ClusterRegistry :=
  let plain (id : String) : Cluster := ⟨id, "memory", .empty, .null, default, none⟩
  ((ClusterRegistry.empty.set "c" (plain "c")).set "a" (plain "a")).set "b" (plain "b")

theorem ties_uniform_three :
    qualified threeClusters.labels .empty = ["a", "b", "c"] ∧
      (electing ["a", "b", "c"] "b").card = 2 ^ 62 ∧
      2 ^ 64 ≤ 2 * (admitted 3).card ∧
      3 * (deciding ["a", "b", "c"] "b" 2).card + (refused 3).card ^ 2 = (2 ^ 64) ^ 2 ∧
      FirstAt (.ofSeed 17) 3 2 ∧
      (allocate (.ofSeed 17) threeClusters.labels .empty).1 = .ok "c" := by
  have hids : qualified threeClusters.labels .empty = ["a", "b", "c"] := by decide +kernel
  have hlength : ["a", "b", "c"].length = 3 := rfl
  have hfair := ties_uniform threeClusters .empty (by rw [hids]; decide) (by rw [hids]; decide)
  rw [hids] at hfair
  have hhalf := hfair.half
  have hshared := hfair.shared 2 "b" (by decide)
  rw [hlength] at hhalf hshared
  -- the first two words of this seed are refused
  have hfirst : FirstAt (.ofSeed 17) 3 2 := ⟨by decide +kernel, by decide +kernel⟩
  have helects : elected ["a", "b", "c"] ((Draws.ofSeed 17).word 2) = some "c" := by decide +kernel
  obtain ⟨id, -, helects', hplaced⟩ := hfair.followed (.ofSeed 17) 2 hfirst
  obtain rfl : id = "c" := Option.some.inj (helects'.symm.trans helects)
  exact ⟨hids, hfair.even "b" (by decide), hhalf, hshared, hfirst, by rw [hplaced]⟩

end FederatedStorage.Placement
