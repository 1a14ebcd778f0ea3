import FederatedStorage.Json.Record
import FederatedStorage.Proofs.Json.Reordered

/-!
# Records restored

The members of a record may come in any order and among members that no field has. What has been
found so far is then the contents of the fields named so far, so the order leaves no trace; a field
that is not written has its content for a fallback.

## Main statements

* `required_restores`, `defaulted_restores`, `sparse_restores`: what fields restore.
* `Record.restores`, `Record.lossless`: a record is read from all variants of what it writes.
-/

namespace FederatedStorage.Json

/-! ## Fields -/

/-- **A field restores a content**: its codec does, in the shape that contents of its name have, and
where the content is not written it is the fallback. -/
structure Field.Restores (inside : String → Shape) (f : Field) (a : f.Content) : Prop where
  content : f.codec.Restores (inside f.name) a
  hidden : f.hides a = true → f.fallback = some a

section Fields

variable {α : Type} {inside : String → Shape} {name : String} {codec : Codec α} {a : α}
  {o : Option α}

theorem required_restores (h : codec.Restores (inside name) a) :
    (Field.required name codec).Restores inside a := ⟨h, fun hides => by cases hides⟩

theorem defaulted_restores {value : α} (h : codec.Restores (inside name) a) :
    (Field.defaulted name codec value).Restores inside a := ⟨h, fun hides => by cases hides⟩

theorem fieldOptional_restores (h : codec.optional.Restores (inside name) o) :
    (Field.optional name codec).Restores inside o := ⟨h, fun hides => by cases hides⟩

theorem sparse_restores (h : codec.optional.Restores (inside name) o) :
    (Field.sparse name codec).Restores inside o := by
  refine ⟨h, fun hides => ?_⟩
  cases o with
  | none => rfl
  | some a => cases hides

theorem optionalText_restores (o : Option String) : Codec.text.optional.Restores .plain o :=
  Codec.optional_restores (fun s _ => Codec.text_restores s) fun _ _ h => by cases h

theorem optionalSize_restores (o : Option UInt64) : Codec.size.optional.Restores .plain o :=
  Codec.optional_restores (fun n _ => Codec.size_restores n) fun _ _ h => by cases h

end Fields

/-! ## Rows -/

namespace Row

/-- Each content of a row has a property. -/
def Each (P : (f : Field) → f.Content → Prop) : (fs : List Field) → Row fs → Prop
  | [], () => True
  | f :: fs, (a, row) => P f a ∧ Each P fs row

/-- A member fits a row: it has the content of the field of its name, or can be skipped. -/
def Fits (name : String) (o : Outline) : (fs : List Field) → Row fs → Prop
  | [], () => o.skip = .ok ()
  | f :: fs, (a, row) =>
    if f.name = name then ∀ depth, f.codec.read depth o = .ok a else Fits name o fs row

theorem fits_cons {name : String} {o : Outline} {f : Field} {fs : List Field} {a : f.Content}
    {row : Row fs} : Fits name o (f :: fs) (a, row) ↔
      if f.name = name then ∀ depth, f.codec.read depth o = .ok a else Fits name o fs row := Iff.rfl

end Row

/-- What has been found when some names have been read. -/
def Slots.found (names : List String) : (fs : List Field) → Row fs → Slots fs
  | [], () => ()
  | f :: fs, (a, row) => (if f.name ∈ names then some a else none, found names fs row)

namespace Slots

variable {names : List String} {name : String} {o : Outline} {depth : Nat}

theorem found_nil : ∀ (fs : List Field) (row : Row fs), found [] fs row = empty fs
  | [], () => rfl
  | _ :: fs, (_, row) => congrArg (Prod.mk none) (found_nil fs row)

theorem found_cons (names : List String) (f : Field) (fs : List Field) (a : f.Content)
    (row : Row fs) : found names (f :: fs) (a, row) =
      (if f.name ∈ names then some a else none, found names fs row) := rfl

theorem found_congr {others : List String} : ∀ {fs : List Field} {row : Row fs},
    (∀ f ∈ fs, f.name ∈ names ↔ f.name ∈ others) → found names fs row = found others fs row
  | [], (), _ => rfl
  | f :: fs, (a, row), h => by
    obtain ⟨hf, hfs⟩ := List.forall_mem_cons.mp h
    rw [found_cons, found_cons, found_congr hfs]
    exact congrArg (fun slot => (slot, found others fs row)) (if_congr hf rfl rfl)

section

variable {f : Field} {fs : List Field} {slots slots' : Slots fs}

theorem put_here {a : f.Content} (hname : f.name = name) (h : f.codec.read depth o = .ok a) :
    put depth name o (f :: fs) (none, slots) = .ok (some a, slots) := by
  refine (if_pos (beq_iff_eq.mpr hname)).trans ?_
  rw [h]
  rfl

theorem put_further {slot : Option f.Content} (hname : f.name ≠ name)
    (h : put depth name o fs slots = .ok slots') :
    put depth name o (f :: fs) (slot, slots) = .ok (slot, slots') := by
  refine (if_neg fun heq => hname (beq_iff_eq.mp heq)).trans ?_
  rw [h]
  rfl

end

/-- **A member is put into its slot**, if no member of that name was there before. -/
theorem put_found : ∀ {fs : List Field} {row : Row fs}, (fs.map Field.name).Nodup →
    (name ∈ names → name ∉ fs.map Field.name) → Row.Fits name o fs row →
      put depth name o fs (found names fs row) = .ok (found (name :: names) fs row)
  | [], (), _, _, hfits => by
    have hskip : o.skip = .ok () := hfits
    unfold put
    rw [hskip]
    rfl
  | f :: fs, (a, row), hnodup, hnew, hfits => by
    obtain ⟨hf, hfs⟩ := List.nodup_cons.mp hnodup
    rw [found_cons, found_cons]
    rw [Row.fits_cons] at hfits
    by_cases hname : f.name = name
    · rw [if_pos hname] at hfits
      have hfresh : f.name ∉ names := fun h => hnew (hname ▸ h) (by simp [hname])
      have hnow : f.name ∈ name :: names := hname ▸ List.mem_cons_self
      -- no other field has this name
      have hrest : found (name :: names) fs row = found names fs row := by
        refine found_congr fun g hg => ?_
        have hne : g.name ≠ name := fun h => hf (List.mem_map.mpr ⟨g, hg, h.trans hname.symm⟩)
        simp [hne]
      rw [if_neg hfresh, if_pos hnow, hrest]
      exact put_here hname (hfits depth)
    · rw [if_neg hname] at hfits
      have hput : put depth name o fs (found names fs row) = _ :=
        put_found hfs (fun h hmem => hnew h (List.mem_cons_of_mem _ hmem)) hfits
      have hiff : f.name ∈ name :: names ↔ f.name ∈ names := by simp [hname]
      rw [if_congr hiff rfl rfl]
      exact put_further hname hput

/-- **All members are put into their slots**, in whatever order, if no field is named twice. -/
theorem putAll_found {fs : List Field} {row : Row fs} (hnodup : (fs.map Field.name).Nodup) :
    ∀ {ms : List (String × Value)} {names : List String},
      (ms.map Prod.fst).Pairwise (fun k l => k = l → k ∉ fs.map Field.name) →
      (∀ m ∈ ms, m.1 ∈ names → m.1 ∉ fs.map Field.name) →
      (∀ m ∈ ms, Row.Fits m.1 (.ofValue m.2) fs row) →
        putAll depth fs (found names fs row) (Outline.ofMembers ms) =
          .ok (found ((ms.map Prod.fst).reverse ++ names) fs row)
  | [], _, _, _, _ => rfl
  | (k, v) :: ms, names, hpairs, hnew, hfits => by
    obtain ⟨hk, hms⟩ := List.pairwise_cons.mp hpairs
    obtain ⟨hknew, hmsnew⟩ := List.forall_mem_cons.mp hnew
    obtain ⟨hkfits, hmsfits⟩ := List.forall_mem_cons.mp hfits
    have hput : put depth k (.ofValue v) fs (found names fs row) = _ :=
      put_found hnodup hknew hkfits
    have hlater : ∀ m ∈ ms, m.1 ∈ k :: names → m.1 ∉ fs.map Field.name := by
      intro m hm hmem
      rcases List.mem_cons.mp hmem with heq | hmem
      · exact heq ▸ hk m.1 (List.mem_map_of_mem hm) heq.symm
      · exact hmsnew m hm hmem
    have hrest : putAll depth fs (found (k :: names) fs row) (Outline.ofMembers ms) = _ :=
      putAll_found hnodup hms hlater hmsfits
    show (do
      let slots ← put depth k (.ofValue v) fs (found names fs row)
      putAll depth fs slots (Outline.ofMembers ms)) = _
    rw [hput]
    refine hrest.trans ?_
    rw [List.map_cons, List.reverse_cons, List.append_assoc]
    rfl

theorem fill_here {f : Field} {fs : List Field} {slot : Option f.Content} {slots : Slots fs}
    {a : f.Content} {row : Row fs} (h : slot.or f.fallback = some a)
    (hrest : fill fs slots = .ok row) : fill (f :: fs) (slot, slots) = .ok (a, row) := by
  rw [fill, h]
  show (do return (a, ← fill fs slots) : Except Fault (f.Content × Row fs)) = _
  rw [hrest]
  rfl

/-- **What has been found fills the row**, if only fields with the fallback as their content have
not been named. -/
theorem fill_found : ∀ {fs : List Field} {row : Row fs},
    Row.Each (fun f a => f.name ∈ names ∨ f.fallback = some a) fs row →
      fill fs (found names fs row) = .ok row
  | [], (), _ => rfl
  | f :: fs, (a, row), h => by
    obtain ⟨hf, hfs⟩ := h
    have hslot : ((if f.name ∈ names then some a else none).or f.fallback) = some a := by
      by_cases hname : f.name ∈ names
      · rw [if_pos hname, Option.some_or]
      · rw [if_neg hname, Option.none_or]
        exact hf.resolve_left hname
    rw [found_cons]
    exact fill_here hslot (fill_found hfs)

end Slots

/-! ## Members -/

namespace Row

variable {inside : String → Shape}

theorem members_cons (f : Field) (fs : List Field) (a : f.Content) (row : Row fs) :
    members (f :: fs) (a, row) =
      if f.hides a then members fs row else (f.name, f.codec.write a) :: members fs row := rfl

/-- Members have the names of fields, in their order. -/
theorem names_members : ∀ (fs : List Field) (row : Row fs),
    ((members fs row).map Prod.fst).Sublist (fs.map Field.name)
  | [], () => .slnil
  | f :: fs, (a, row) => by
    rw [members_cons]
    split
    · exact (names_members fs row).cons _
    · exact (names_members fs row).cons_cons _

/-- What the members of restored contents are written as, and what is read from their variants. -/
theorem mem_members : ∀ {fs : List Field} {row : Row fs} {m : String × Value},
    Each (Field.Restores inside) fs row → m ∈ members fs row →
      m.2.IsIntegral ∧ Variant (inside m.1) m.2 m.2 ∧ ((fs.map Field.name).Nodup →
        ∀ w, Variant (inside m.1) m.2 w → Fits m.1 (.ofValue w) fs row)
  | [], (), _, _, hm => absurd hm List.not_mem_nil
  | f :: fs, (a, row), m, ⟨hf, hfs⟩, hm => by
    rw [members_cons] at hm
    have hrest : m ∈ members fs row → m.2.IsIntegral ∧ Variant (inside m.1) m.2 m.2 ∧
        (((f :: fs).map Field.name).Nodup →
          ∀ w, Variant (inside m.1) m.2 w → Fits m.1 (.ofValue w) (f :: fs) (a, row)) := by
      intro hm
      obtain ⟨hintegral, hself, hfits⟩ := mem_members hfs hm
      refine ⟨hintegral, hself, fun hnodup w hw => ?_⟩
      obtain ⟨hname, hnames⟩ := List.nodup_cons.mp hnodup
      have hmem : m.1 ∈ fs.map Field.name :=
        (names_members fs row).subset (List.mem_map_of_mem hm)
      have hne : f.name ≠ m.1 := fun heq => hname (heq ▸ hmem)
      rw [fits_cons, if_neg hne]
      exact hfits hnames w hw
    split at hm
    · exact hrest hm
    · rcases List.mem_cons.mp hm with rfl | hm
      · refine ⟨hf.content.integral, hf.content.self, fun _ w hw => ?_⟩
        rw [fits_cons, if_pos rfl]
        exact hf.content.reads w hw
      · exact hrest hm

/-- A text that no field has for its name can be skipped. -/
theorem fits_unknown {name s : String} : ∀ {fs : List Field} {row : Row fs},
    name ∉ fs.map Field.name → Fits name (.ofValue (.string s)) fs row
  | [], (), _ => rfl
  | f :: fs, (a, row), h => by
    obtain ⟨hne, hrest⟩ := List.ne_and_not_mem_of_not_mem_cons h
    rw [fits_cons, if_neg (Ne.symm hne)]
    exact fits_unknown hrest

/-- A field that is not among the members has its content for a fallback. -/
theorem each_named {names : List String} : ∀ {fs : List Field} {row : Row fs},
    Each (Field.Restores inside) fs row → (∀ m ∈ members fs row, m.1 ∈ names) →
      Each (fun f a => f.name ∈ names ∨ f.fallback = some a) fs row
  | [], (), _, _ => trivial
  | f :: fs, (a, row), ⟨hf, hfs⟩, h => by
    rw [members_cons] at h
    split at h
    · next hides => exact ⟨Or.inr (hf.hidden hides), each_named hfs h⟩
    · obtain ⟨hname, hrest⟩ := List.forall_mem_cons.mp h
      exact ⟨Or.inl hname, each_named hfs hrest⟩

/-- No field is named twice among the members and unknown ones, in whatever order. -/
theorem named_once {fs : List Field} {row : Row fs} {ms extras : List (String × Value)}
    (hnodup : (fs.map Field.name).Nodup) (hextras : ∀ m ∈ extras, m.1 ∉ fs.map Field.name)
    (hnames : (ms.map Prod.fst).Perm ((members fs row).map Prod.fst ++ extras.map Prod.fst)) :
    (ms.map Prod.fst).Pairwise fun k l => k = l → k ∉ fs.map Field.name := by
  refine (hnames.pairwise_iff fun hkl heq => heq ▸ hkl heq.symm).mpr ?_
  rw [List.pairwise_append]
  refine ⟨?_, ?_, ?_⟩
  · exact (hnodup.sublist (names_members fs row)).imp fun hne heq => absurd heq hne
  · exact List.pairwise_map.mpr (List.pairwise_of_forall_mem_list fun k hk _ _ _ => hextras k hk)
  · intro k _ l hl heq
    obtain ⟨m, hm, rfl⟩ := List.mem_map.mp hl
    exact heq ▸ hextras m hm

/-- **A row is read from all variants of its members.** -/
theorem read_variant {fs : List Field} {row : Row fs} {w : Value}
    (hnodup : (fs.map Field.name).Nodup) (h : Each (Field.Restores inside) fs row)
    (hw : Variant (.record (fs.map Field.name) inside) (.object (members fs row)) w) (depth : Nat) :
    read fs depth (.ofValue w) = .ok row := by
  obtain ⟨ns, extras, ms, hns, hextras, hperm, rfl⟩ := hw
  have hnames : (ms.map Prod.fst).Perm
      ((members fs row).map Prod.fst ++ extras.map Prod.fst) := by
    refine (hperm.map Prod.fst).symm.trans ?_
    rw [List.map_append, hns.names]
    exact .refl _
  have hfits : ∀ n ∈ ms, Fits n.1 (.ofValue n.2) fs row := by
    intro n hn
    rcases List.mem_append.mp (hperm.mem_iff.mpr hn) with hn | hn
    · obtain ⟨m, hm, hname, hvariant⟩ := hns.exists_of_mem n hn
      obtain ⟨-, -, hread⟩ := mem_members h hm
      rw [hname]
      exact hread hnodup n.2 hvariant
    · obtain ⟨hunknown, s, hs⟩ := hextras n hn
      rw [hs]
      exact fits_unknown hunknown
  have hpairs := named_once hnodup (fun m hm => (hextras m hm).1) hnames
  have hput : Slots.putAll (depth - 1) fs (Slots.empty fs) (Outline.ofMembers ms) =
      .ok (Slots.found ((ms.map Prod.fst).reverse ++ []) fs row) := by
    rw [← Slots.found_nil fs row]
    exact Slots.putAll_found hnodup hpairs (fun _ _ hmem => absurd hmem List.not_mem_nil) hfits
  have hfill : Slots.fill fs (Slots.found ((ms.map Prod.fst).reverse ++ []) fs row) = .ok row := by
    refine Slots.fill_found (each_named h fun m hm => ?_)
    rw [List.append_nil, List.mem_reverse, hnames.mem_iff]
    exact List.mem_append_left _ (List.mem_map_of_mem hm)
  show (do
    let slots ← Slots.putAll (depth - 1) fs (Slots.empty fs) (Outline.ofMembers ms)
    if true then slots.fill fs else .error .malformed) = _
  rw [hput]
  exact hfill

end Row

/-- The shape of a record that knows its fields, with shapes of their own. -/
def Record.shape {α : Type} (r : Record α) (inside : String → Shape) : Shape :=
  .record (r.fields.map Field.name) inside

/-- **A record is restored** if its fields restore their contents. -/
theorem Record.restores {α : Type} {r : Record α} {a : α} {inside : String → Shape}
    (hnodup : (r.fields.map Field.name).Nodup)
    (h : Row.Each (Field.Restores inside) r.fields (r.toRow a)) :
    r.codec.Restores (r.shape inside) a where
  integral := membersIntegral_iff.mpr fun _ hm => (Row.mem_members h hm).1
  self := by
    refine ⟨_, [], _, .refl fun m hm => (Row.mem_members h hm).2.1, ?_, .refl _, ?_⟩
    · exact fun _ hm => absurd hm List.not_mem_nil
    · rw [List.append_nil]
      rfl
  reads w hw depth := by
    show r.ofRow <$> Row.read r.fields depth (.ofValue w) = .ok a
    rw [Row.read_variant hnodup h hw]
    exact congrArg Except.ok (r.ofRow_toRow a)

/-- A record loses nothing of a typed value, if its fields have these shapes. -/
def Record.Lossless {α : Type} (r : Record α) (inside : String → Shape) (a : α) : Prop :=
  r.codec.Lossless (r.shape inside) a

/-- **A record loses nothing** if its fields restore their contents. -/
theorem Record.lossless {α : Type} {r : Record α} {a : α} {inside : String → Shape}
    (hnodup : (r.fields.map Field.name).Nodup)
    (h : Row.Each (Field.Restores inside) r.fields (r.toRow a)) : r.Lossless inside a :=
  (Record.restores hnodup h).lossless

end FederatedStorage.Json
