import FederatedStorage.Proofs.Json.Built
import Mathlib.Data.List.Forall2
import Mathlib.Data.List.Perm.Basic

/-!
# Values with their members in another order

An object means the same in whatever order its members stand. `Reordered` says that of two values,
at any depth. A record may also have members that nobody knows: its `Shape` says where, and
`Variant` allows both. A codec restores a typed value if it reads all variants of what it has
written; for values without objects that is reading what was written.

## Main statements

* `Variant.isIntegral`: numbers stay integers.
* `Codec.Restores.lossless`: what is restored from all variants is read back from their texts.
* `restores_of_keeps`, `list_restores`, `table_restores`, `optional_restores`: what codecs restore.
-/

namespace FederatedStorage.Json

mutual

/-- **The members of objects stand in another order**, here and in all values inside. -/
inductive Reordered : Value → Value → Prop
  | same (v : Value) : Reordered v v
  | array {vs ws : List Value} (h : List.Forall₂ Reordered vs ws) : Reordered (.array vs) (.array ws)
  | object {ms ns ns' : List (String × Value)} (h : ReorderedMembers ms ns) (hperm : ns.Perm ns') :
      Reordered (.object ms) (.object ns')

/-- The same members, each with its value reordered. -/
inductive ReorderedMembers : List (String × Value) → List (String × Value) → Prop
  | nil : ReorderedMembers [] []
  | cons {k : String} {v w : Value} {ms ns : List (String × Value)} (h : Reordered v w)
      (hs : ReorderedMembers ms ns) : ReorderedMembers ((k, v) :: ms) ((k, w) :: ns)

end

/-- Whether a value is neither an array nor an object. -/
def Value.isLeaf : Value → Bool
  | .array _ => false
  | .object _ => false
  | _ => true

namespace Reordered

variable {v w : Value} {ms : List (String × Value)}

theorem eq_of_isLeaf (h : Reordered v w) (hv : v.isLeaf = true) : w = v := by
  cases h with
  | same => rfl
  | array => cases hv
  | object => cases hv

theorem exists_of_array {vs : List Value} (h : Reordered (.array vs) w) :
    ∃ ws, w = .array ws ∧ List.Forall₂ Reordered vs ws := by
  cases h with
  | same => exact ⟨vs, rfl, List.forall₂_same.mpr fun v _ => .same v⟩
  | array h => exact ⟨_, rfl, h⟩

theorem same_members : ∀ ms : List (String × Value), ReorderedMembers ms ms
  | [] => .nil
  | (_, v) :: ms => .cons (.same v) (same_members ms)

theorem exists_of_object (h : Reordered (.object ms) w) :
    ∃ ns ns', w = .object ns' ∧ ReorderedMembers ms ns ∧ ns.Perm ns' := by
  cases h with
  | same => exact ⟨ms, ms, rfl, same_members ms, .refl ms⟩
  | object h hperm => exact ⟨_, _, rfl, h, hperm⟩

/-- Nothing but `null` is reordered to `null`. -/
theorem ne_null (h : Reordered v w) (hv : v ≠ .null) : w ≠ .null := by
  rintro rfl
  cases h
  exact hv rfl

end Reordered

/-! ## Members that are alike -/

/-- **Members are alike**: they have the same names in the same order, and related values. -/
def Alike (R : String → Value → Value → Prop) (ms ns : List (String × Value)) : Prop :=
  List.Forall₂ (fun m n => n.1 = m.1 ∧ R m.1 m.2 n.2) ms ns

namespace Alike

variable {R : String → Value → Value → Prop} {ms ns : List (String × Value)}

theorem refl (h : ∀ m ∈ ms, R m.1 m.2 m.2) : Alike R ms ms :=
  List.forall₂_same.mpr fun m hm => ⟨rfl, h m hm⟩

theorem names (h : Alike R ms ns) : ns.map Prod.fst = ms.map Prod.fst := by
  induction h with
  | nil => rfl
  | cons hmn _ ih => rw [List.map_cons, List.map_cons, hmn.1, ih]

theorem exists_of_mem (h : Alike R ms ns) : ∀ n ∈ ns, ∃ m ∈ ms, n.1 = m.1 ∧ R m.1 m.2 n.2 := by
  induction h with
  | nil => exact fun _ hn => absurd hn List.not_mem_nil
  | cons hmn _ ih =>
    refine List.forall_mem_cons.mpr ⟨⟨_, List.mem_cons_self, hmn⟩, fun n hn => ?_⟩
    obtain ⟨m, hm, hmn⟩ := ih n hn
    exact ⟨m, List.mem_cons_of_mem _ hm, hmn⟩

/-- Members without arrays and objects are as they were. -/
theorem eq_of_isLeaf (h : Alike (fun _ => Reordered) ms ns) (hleaf : ∀ m ∈ ms, m.2.isLeaf = true) :
    ns = ms := by
  induction h with
  | nil => rfl
  | cons hmn _ ih =>
    obtain ⟨hm, hms⟩ := List.forall_mem_cons.mp hleaf
    rw [ih hms, Prod.ext hmn.1 (hmn.2.eq_of_isLeaf hm)]

end Alike

theorem ReorderedMembers.alike : ∀ {ms ns : List (String × Value)}, ReorderedMembers ms ns →
    Alike (fun _ => Reordered) ms ns
  | _, _, .nil => .nil
  | _, _, .cons h hs => .cons ⟨rfl, h⟩ hs.alike

/-! ## Integers -/

theorem membersIntegral_iff {ms : List (String × Value)} :
    MembersIntegral ms ↔ ∀ m ∈ ms, m.2.IsIntegral := by
  induction ms with
  | nil => exact iff_of_true trivial fun _ h => absurd h List.not_mem_nil
  | cons m ms ih => rw [List.forall_mem_cons, ← ih]; rfl

theorem itemsIntegral_iff {vs : List Value} : ItemsIntegral vs ↔ ∀ v ∈ vs, v.IsIntegral := by
  induction vs with
  | nil => exact iff_of_true trivial fun _ h => absurd h List.not_mem_nil
  | cons v vs ih => rw [List.forall_mem_cons, ← ih]; rfl

mutual

/-- **Numbers stay integers** whatever the order of members. -/
theorem Reordered.isIntegral : ∀ {v w : Value}, Reordered v w → v.IsIntegral → w.IsIntegral
  | _, _, .same _, hv => hv
  | .array _, _, .array h, hv => itemsIntegral_of_reordered h hv
  | .object _, _, .object h hperm, hv =>
    membersIntegral_iff.mpr fun m hm =>
      membersIntegral_iff.mp (membersIntegral_of_reordered h hv) m (hperm.mem_iff.mpr hm)

theorem itemsIntegral_of_reordered : ∀ {vs ws : List Value}, List.Forall₂ Reordered vs ws →
    ItemsIntegral vs → ItemsIntegral ws
  | [], _, .nil, _ => trivial
  | _ :: _, _, .cons h hs, hv => ⟨h.isIntegral hv.1, itemsIntegral_of_reordered hs hv.2⟩

theorem membersIntegral_of_reordered : ∀ {ms ns : List (String × Value)}, ReorderedMembers ms ns →
    MembersIntegral ms → MembersIntegral ns
  | [], _, .nil, _ => trivial
  | _ :: _, _, .cons h hs, hv => ⟨h.isIntegral hv.1, membersIntegral_of_reordered hs hv.2⟩

end

theorem Value.isIntegral_members {v : Value} (h : v.IsIntegral) :
    ∀ m ∈ v.members, m.2.IsIntegral := by
  cases v with
  | object => exact membersIntegral_iff.mp h
  | _ => exact fun _ hm => absurd hm List.not_mem_nil

/-! ## Variants -/

/-- **Where unknown members may stand**: nowhere, or among those of a record, whose known members
have shapes of their own. -/
inductive Shape
  | plain
  | record (known : List String) (inside : String → Shape)

/-- **A variant of a value**: the members of objects stand in any order, and those of records may
have unknown texts among them. -/
def Variant : Shape → Value → Value → Prop
  | .plain, v, w => Reordered v w
  | .record known inside, v, w =>
    ∃ ns extras ms : List (String × Value), Alike (fun name => Variant (inside name)) v.members ns ∧
      (∀ m ∈ extras, m.1 ∉ known ∧ ∃ s, m.2 = .string s) ∧ (ns ++ extras).Perm ms ∧ w = .object ms

/-- Numbers stay integers in all variants. -/
theorem Variant.isIntegral {shape : Shape} {v w : Value} (h : Variant shape v w)
    (hv : v.IsIntegral) : w.IsIntegral := by
  induction shape generalizing v w with
  | plain => exact Reordered.isIntegral h hv
  | record known inside ih =>
    obtain ⟨ns, extras, ms, hns, hextras, hperm, rfl⟩ := h
    refine membersIntegral_iff.mpr fun n hn => ?_
    rcases List.mem_append.mp (hperm.mem_iff.mpr hn) with hn | hn
    · obtain ⟨m, hm, -, hvariant⟩ := hns.exists_of_mem n hn
      exact ih m.1 hvariant (Value.isIntegral_members hv m hm)
    · obtain ⟨-, s, hs⟩ := hextras n hn
      rw [hs]
      trivial

/-! ## Codecs -/

namespace Codec

variable {α : Type} {codec entry : Codec α} {a : α}

/-- **A codec restores a typed value**: it reads all variants of what it writes, at any depth. -/
structure Restores (codec : Codec α) (shape : Shape) (a : α) : Prop where
  integral : (codec.write a).IsIntegral
  self : Variant shape (codec.write a) (codec.write a)
  reads : ∀ w, Variant shape (codec.write a) w → ∀ depth, codec.read depth (.ofValue w) = .ok a

/-- **A codec loses nothing of a typed value**: its text is read back, and so are the texts of all
variants. -/
def Lossless (codec : Codec α) (shape : Shape) (a : α) : Prop :=
  codec.ofDocument (codec.render a) = .ok a ∧
    ∀ w, Variant shape (codec.write a) w → codec.ofDocument w.render = .ok a

/-- A codec that restores a typed value loses nothing of it. -/
theorem Restores.lossless {shape : Shape} (h : codec.Restores shape a) :
    codec.Lossless shape a := by
  have hvariants : ∀ w, Variant shape (codec.write a) w → codec.ofDocument w.render = .ok a :=
    fun w hw => (ofDocument_render (hw.isIntegral h.integral)).trans (h.reads w hw _)
  exact ⟨hvariants _ h.self, hvariants⟩

/-- A codec without arrays and objects restores what it keeps. -/
theorem restores_of_keeps (hleaf : (codec.write a).isLeaf = true)
    (hintegral : (codec.write a).IsIntegral) (h : codec.Keeps a) : codec.Restores .plain a where
  integral := hintegral
  self := .same _
  reads w hw depth := by
    rw [Reordered.eq_of_isLeaf hw hleaf]
    exact h depth

theorem text_restores (s : String) : text.Restores .plain s :=
  restores_of_keeps rfl trivial (text_keeps s)

theorem flag_restores (b : Bool) : flag.Restores .plain b :=
  restores_of_keeps rfl trivial (flag_keeps b)

theorem isIntegral_natural {n : Nat} (h : n < UInt64.size) : (Value.natural n).IsIntegral := by
  show -(Nat.pow 2 63 : Nat) ≤ (n : Int) ∧ (n : Int) < UInt64.size
  omega

theorem size_restores (n : UInt64) : size.Restores .plain n :=
  restores_of_keeps rfl (isIntegral_natural n.toNat_lt_size) (size_keeps n)

/-- Short counts are kept, up to the largest of 32 bits. -/
theorem shortCount_keeps (n : UInt32) : shortCount.Keeps n := by
  intro depth
  show UInt32.ofNat <$> readNatural UInt32.size (.ofValue (.natural n.toNat)) = .ok n
  rw [readNatural_natural n.toNat_lt_size]
  simp [Functor.map, Except.map]

theorem shortCount_restores (n : UInt32) : shortCount.Restores .plain n := by
  have hlt : n.toNat < UInt64.size := Nat.lt_trans n.toNat_lt_size (by decide)
  exact restores_of_keeps rfl (isIntegral_natural hlt) (shortCount_keeps n)

/-- A text of a special form is restored if it can be parsed. -/
theorem ofText_restores {parse? : String → Option α} {render : α → String}
    (h : parse? (render a) = some a) : (ofText parse? render).Restores .plain a := by
  refine restores_of_keeps rfl trivial fun depth => ?_
  have hread : (Outline.ofValue (.string (render a))).readText = .ok (render a) := rfl
  simp only [ofText, hread, bind, Except.bind, h]

/-- **Lists are restored** item by item. -/
theorem list_restores {as : List α} (h : ∀ a ∈ as, codec.Restores .plain a) :
    (list codec).Restores .plain as where
  integral := by
    refine itemsIntegral_iff.mpr fun v hv => ?_
    obtain ⟨a, ha, rfl⟩ := List.mem_map.mp hv
    exact (h a ha).integral
  self := .same _
  reads w hw depth := by
    obtain ⟨ws, rfl, hws⟩ := Reordered.exists_of_array hw
    have hread : readAll (codec.read (depth - 1)) (Outline.ofItems ws) = .ok as := by
      clear hw
      induction as generalizing ws with
      | nil =>
        cases hws
        rfl
      | cons a as ih =>
        obtain ⟨w, ws, hw, hws', rfl⟩ := List.forall₂_cons_left_iff.mp hws
        obtain ⟨ha, has⟩ := List.forall_mem_cons.mp h
        show (do
          let a ← codec.read (depth - 1) (.ofValue w)
          let as ← readAll (codec.read (depth - 1)) (Outline.ofItems ws)
          return a :: as) = _
        rw [ha.reads w hw, ih has ws hws']
        rfl
    show (do
      let as ← readAll (codec.read (depth - 1)) (Outline.ofItems ws)
      if true then return as else .error .malformed) = _
    rw [hread]
    rfl

/-- The entries of a table may be read in any order. -/
theorem readEntries_of_members {t : Keyed α} {depth : Nat} {ns : List (String × Value)}
    (h : ∀ n ∈ ns, ∃ a, t.get? n.1 = some a ∧ entry.read depth (.ofValue n.2) = .ok a)
    (sofar : Keyed α) :
    ∃ s, readEntries entry depth sofar (Outline.ofMembers ns) = .ok s ∧
      ∀ k, s.get? k = if k ∈ ns.map Prod.fst then t.get? k else sofar.get? k := by
  induction ns generalizing sofar with
  | nil => exact ⟨sofar, rfl, fun _ => rfl⟩
  | cons n ns ih =>
    obtain ⟨name, w⟩ := n
    obtain ⟨⟨a, ha, hread⟩, hrest⟩ := List.forall_mem_cons.mp h
    obtain ⟨s, hs, hget⟩ := ih hrest (sofar.insert name a)
    refine ⟨s, ?_, fun k => ?_⟩
    · show (do
        let a ← entry.read depth (.ofValue w)
        readEntries entry depth (sofar.insert name a) (Outline.ofMembers ns)) = _
      rw [hread]
      exact hs
    · rw [hget k, Keyed.get?_insert]
      simp only [List.map_cons, List.mem_cons]
      by_cases hname : k = name
      · simp only [hname, true_or, if_true, ha, ite_self]
      · simp only [hname, false_or, if_false]

/-- **Tables are restored** entry by entry, whatever the order of their entries. -/
theorem table_restores {t : Keyed α} (h : ∀ e ∈ t.entries, entry.Restores .plain e.2) :
    (table entry).Restores .plain t where
  integral := by
    refine membersIntegral_iff.mpr fun m hm => ?_
    obtain ⟨e, he, rfl⟩ := List.mem_map.mp hm
    exact (h e he).integral
  self := .same _
  reads w hw depth := by
    obtain ⟨ns, ns', rfl, hns, hperm⟩ := Reordered.exists_of_object hw
    have hentries : ∀ n ∈ ns', ∃ a, t.get? n.1 = some a ∧
        entry.read (depth - 1) (.ofValue n.2) = .ok a := by
      intro n hn
      obtain ⟨m, hm, hname, hreordered⟩ := hns.alike.exists_of_mem n (hperm.mem_iff.mpr hn)
      obtain ⟨e, he, rfl⟩ := List.mem_map.mp hm
      exact ⟨e.2, Keyed.get?_eq_some_iff.mpr (hname ▸ he), (h e he).reads n.2 hreordered _⟩
    obtain ⟨s, hs, hget⟩ := readEntries_of_members hentries .empty
    have hst : s = t := by
      refine Keyed.ext_get? fun k => ?_
      rw [hget k]
      split
      · rfl
      · next hk =>
        -- what is not named is not in the table either
        rw [Keyed.get?_empty, eq_comm, ← Option.not_isSome_iff_eq_none]
        intro hsome
        have hkey : k ∈ t.keys := Keyed.mem_keys_iff.mpr hsome
        refine hk ((hperm.map Prod.fst).mem_iff.mp ?_)
        rw [hns.alike.names, List.map_map]
        exact hkey
    show (do
      let entries ← readEntries entry (depth - 1) .empty (Outline.ofMembers ns')
      if true then return entries else .error .malformed) = _
    rw [hs, hst]
    rfl

/-- **A value that may be missing** is restored, unless its own codec writes `null` for it. -/
theorem optional_restores {o : Option α} (h : ∀ a, o = some a → codec.Restores .plain a)
    (hnull : ∀ a, o = some a → codec.write a ≠ .null) : codec.optional.Restores .plain o := by
  cases o with
  | none => exact restores_of_keeps rfl trivial fun _ => rfl
  | some a =>
    have ha := h a rfl
    refine ⟨ha.integral, .same _, fun w hw depth => ?_⟩
    have hread : codec.optional.read depth (.ofValue w) =
        some <$> codec.read depth (.ofValue w) := by
      have hw := Reordered.ne_null hw (hnull a rfl)
      cases w with
      | null => exact absurd rfl hw
      | _ => rfl
    rw [hread, ha.reads w hw]
    rfl

end Codec

end FederatedStorage.Json
