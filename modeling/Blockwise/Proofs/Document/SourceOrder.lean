/-
  Blockwise/Proofs/Document/SourceOrder.lean
  ==========================================
  **Both walks meet the blocks of a source in its order.**  Families that are tiled say
  how a block lies to its children and to its siblings.  Two blocks of one source may be
  far apart in the tree, with nodes of other sources between them; what puts them in order
  then is that no two includes bring in the same source (`Apart`).

  Sources grow on the way down, since the file of an include comes after the include's own
  source.  So what is below a node is either within the range that its siblings leave to
  it, or in a source that an include among these nodes has brought in
  (`Forest.Spells.range`), and what is below another sibling is in none of these.
-/
import Blockwise.Proofs.Document.Tiling
import Blockwise.Proofs.Document.Traversal

namespace Blockwise

namespace Document

/-! ### Every expansion is its own source -/

/-- The source that the block of a node is in. -/
def sourceOf? (doc : Document) (id : Nat) : Option Nat := (doc.blockOf? id).map Block.source

/-- An include was followed here, and what it has brought in is this source. -/
def Expands (doc : Document) (id s : Nat) : Prop :=
  doc.splicedAt id = true ∧ ∃ c ∈ doc.childrenOf id, doc.sourceOf? c = some s

/-- No source has been brought in twice. -/
def Apart (doc : Document) : Prop := ∀ i j s, doc.Expands i s → doc.Expands j s → i = j

section

variable {doc doc' sub : Document} {file : Inclusion → Source → Prop} {id s : Nat}

theorem apart_ofSource (source : Source) : (ofSource source).Apart := by
  rintro i j s ⟨hspliced, -⟩ -
  cases i with
  | zero => cases hspliced
  | succ i => cases hspliced

theorem Apart.of_expands (h : doc.Apart)
    (hold : ∀ id s, doc'.Expands id s → doc.Expands id s) : doc'.Apart :=
  fun i j s hi hj => h i j s (hold i s hi) (hold j s hj)

/-- A block that is opened elsewhere brings in nothing. -/
theorem Apart.push (h : doc.Apart) (hdoc : doc.Building)
    (hin : doc.splicedAt doc.innermost = false) (block : Block) : (doc.push block).Apart := by
  apply h.of_expands
  rintro id s ⟨hspliced, c, hc, hsource⟩
  rw [splicedAt_push block hdoc.innermost_lt] at hspliced
  have hne : id ≠ doc.innermost := by
    rintro rfl
    rw [hin] at hspliced
    cases hspliced
  rw [childrenOf_push block hdoc.innermost_lt, if_neg hne] at hc
  have hold : c ≠ doc.nodes.size := Nat.ne_of_lt (hdoc.arena.child id c hc).2.1
  rw [sourceOf?, blockOf?_push block hdoc.innermost_lt, if_neg hold] at hsource
  exact ⟨hspliced, c, hc, hsource⟩

theorem sourceOf?_closedAlong {ids : List Nat} {pos markerLen : Nat}
    (h : doc.ClosedAlong doc' ids pos markerLen) (id : Nat) :
    doc'.sourceOf? id = doc.sourceOf? id := by
  unfold sourceOf?
  rw [h.blockOf?]
  split
  · rw [Option.map_map]
    rfl
  · rfl

theorem Apart.closedAlong {ids : List Nat} {pos markerLen : Nat} (h : doc.Apart)
    (hclosed : doc.ClosedAlong doc' ids pos markerLen) : doc'.Apart := by
  apply h.of_expands
  rintro id s ⟨hspliced, c, hc, hsource⟩
  rw [hclosed.splicedAt] at hspliced
  rw [hclosed.childrenOf] at hc
  rw [sourceOf?_closedAlong hclosed] at hsource
  exact ⟨hspliced, c, hc, hsource⟩

theorem mem_members_of_sourceOf? {c : Nat} (hc : c ∈ doc.childrenOf id)
    (hsource : doc.sourceOf? c = some s) :
    ∃ block ∈ (doc.family id).members, block.source = s := by
  obtain ⟨block, hblock, hs⟩ := Option.map_eq_some_iff.1 hsource
  exact ⟨block, mem_members_iff.2 ⟨c, hc, hblock⟩, hs⟩

/-- What an include brings in is a later source than its own. -/
theorem Expands.of_tiled (h : doc.Expands id s) {sources : Array Source}
    (htiled : (doc.family id).Tiled sources file) :
    ∃ block, doc.blockOf? id = some block ∧ block.source < s ∧ s < sources.size := by
  obtain ⟨hspliced, c, hc, hsource⟩ := h
  obtain ⟨member, hmember, rfl⟩ := mem_members_of_sourceOf? hc hsource
  obtain ⟨block, settings, s, content, hblock, -, hlater, hcontent, -, htiles⟩ :=
    htiled.of_spliced hspliced
  obtain ⟨hs, -, -⟩ := htiles.of_mem hmember
  rw [hs]
  exact ⟨block, hblock, hlater, (Array.getElem?_eq_some_iff.1 hcontent).1⟩

/-- After a splice, the sources that are brought in are those of before, the first one of
    the other document, and those that this one has brought in. -/
theorem Grafted.expands {target : Nat} (hgraft : doc.Grafted sub doc' target) (hdoc : doc.Arena)
    (hsub : sub.Arena) (h : doc'.Expands id s) :
    (id ≠ target ∧ id < doc.nodes.size ∧ doc.Expands id s) ∨
      (id = target ∧ ∃ c ∈ sub.childrenOf root, ∃ t, sub.sourceOf? c = some t ∧
        s = t + doc.sources.size) ∨
      ∃ i t, id = doc.nodes.size + i ∧ s = t + doc.sources.size ∧ sub.Expands (i + 1) t := by
  obtain ⟨hspliced, c, hc, hsource⟩ := h
  -- the source of a node that has moved
  have hmoved : ∀ i, doc'.sourceOf? (doc.nodes.size + i) = some s →
      ∃ t, sub.sourceOf? (i + 1) = some t ∧ s = t + doc.sources.size := by
    intro i hi
    rw [sourceOf?, hgraft.blockOf?_new, Option.map_map] at hi
    obtain ⟨block, hblock, hs⟩ := Option.map_eq_some_iff.1 hi
    exact ⟨block.source, by rw [sourceOf?, hblock]; rfl, hs.symm⟩
  by_cases hold : id < doc.nodes.size
  · rw [hgraft.childrenOf id hold] at hc
    split at hc
    · next htarget =>
      obtain ⟨d, hd, rfl⟩ := List.mem_map.1 hc
      obtain ⟨i, rfl⟩ := hsub.exists_succ hd
      rw [landing_succ] at hsource
      obtain ⟨t, ht, hs⟩ := hmoved i hsource
      exact Or.inr (Or.inl ⟨htarget, i + 1, hd, t, ht, hs⟩)
    · next hne =>
      rw [hgraft.splicedAt id hold] at hspliced
      rw [sourceOf?, hgraft.blockOf? c (hdoc.child id c hc).2.1] at hsource
      exact Or.inl ⟨hne, hold, by simpa [hne] using hspliced, c, hc, hsource⟩
  · obtain ⟨i, rfl⟩ := exists_add_of_not_lt hold
    rw [hgraft.childrenOf_new] at hc
    rw [hgraft.splicedAt_new] at hspliced
    obtain ⟨d, hd, rfl⟩ := List.mem_map.1 hc
    obtain ⟨k, rfl⟩ := hsub.exists_succ hd
    rw [landing_succ] at hsource
    obtain ⟨t, ht, hs⟩ := hmoved k hsource
    exact Or.inr (Or.inr ⟨i, t, rfl, hs, hspliced, k + 1, hd, ht⟩)

/-- The sources of a spliced document come after all others, and of these, the first is
    what the splice brings in. -/
theorem Apart.graft {inner : Inclusion → Source → Prop} {target : Nat} (h : doc.Apart)
    (hsub : sub.Apart) (hdoc : doc.Arena) (harena : sub.Arena)
    (hgraft : doc.Grafted sub doc' target)
    (htiled : ∀ id < doc.nodes.size, id ≠ target → (doc.family id).Tiled doc.sources file)
    (hinner : ∀ id < sub.nodes.size, (sub.family id).Tiled sub.sources inner) : doc'.Apart := by
  -- the three kinds of sources that `Grafted.expands` tells apart lie in different ranges
  have hranges : ∀ {i s}, doc'.Expands i s →
      (s < doc.sources.size ∧ doc.Expands i s) ∨ (s = doc.sources.size ∧ i = target) ∨
        ∃ k t, i = doc.nodes.size + k ∧ s = t + doc.sources.size ∧ 0 < t ∧
          sub.Expands (k + 1) t := by
    intro i s hi
    rcases hgraft.expands hdoc harena hi with
      ⟨hne, hlt, hi⟩ | ⟨htarget, c, hc, t, ht, rfl⟩ | ⟨k, t, hk, hs, hi⟩
    · obtain ⟨-, -, -, hs⟩ := hi.of_tiled (htiled i hlt hne)
      exact Or.inl ⟨hs, hi⟩
    · obtain ⟨member, hmember, rfl⟩ := mem_members_of_sourceOf? hc ht
      obtain ⟨main, -, htiles⟩ := (hinner root harena.size_pos).of_root harena.root_block
      obtain ⟨hs, -, -⟩ := htiles.of_mem hmember
      exact Or.inr (Or.inl ⟨by rw [hs, Nat.zero_add], htarget⟩)
    · obtain ⟨c, hc, -⟩ := hi.2
      obtain ⟨block, -, hlater, -⟩ := hi.of_tiled (hinner (k + 1) (lt_size_of_child hc))
      exact Or.inr (Or.inr ⟨k, t, hk, hs, Nat.zero_lt_of_lt hlater, hi⟩)
  intro i j s hi hj
  rcases hranges hi with ⟨hs, hi⟩ | ⟨hs, hi⟩ | ⟨k, t, rfl, hs, ht, hi⟩
  · rcases hranges hj with ⟨-, hj⟩ | ⟨hs', -⟩ | ⟨k', t', -, hs', ht', -⟩
    · exact h i j s hi hj
    · omega
    · omega
  · rcases hranges hj with ⟨hs', -⟩ | ⟨-, hj⟩ | ⟨k', t', -, hs', ht', -⟩
    · omega
    · exact hi.trans hj.symm
    · omega
  · rcases hranges hj with ⟨hs', -⟩ | ⟨hs', -⟩ | ⟨k', t', rfl, hs', -, hj⟩
    · omega
    · omega
    · obtain rfl : t = t' := by omega
      have hsame := hsub (k + 1) (k' + 1) t hi hj
      omega

end

end Document

/-! ### Ranges -/

/-- What is right below a block is in its source and between its ends, or in the later source
    that it has brought in. -/
theorem Family.Tiled.below {family : Family} {sources : Array Source}
    {file : Inclusion → Source → Prop} {block : Block} (h : family.Tiled sources file)
    (hhead : family.head = some block) :
    ∃ (s : Nat) (source : Source) (lo hi : Nat), sources[s]? = some source ∧ block.source ≤ s ∧
      Tiles s source.text.byteLen family.members lo hi ∧
      (block.source = s → block.start < lo ∧ hi ≤ block.stopIn source.text.byteLen) ∧
      (block.source < s → family.spliced = true) := by
  cases h with
  | top => cases hhead
  | plain hfound hplaced =>
    cases hhead
    exact ⟨_, _, _, _, hfound, Nat.le_refl _, rfl, fun _ => ⟨hplaced.start_lt, Nat.le_refl _⟩,
      fun hlt => absurd hlt (Nat.lt_irrefl _)⟩
  | body hfound hplaced _ hlen htiles =>
    cases hhead
    exact ⟨_, _, _, _, hfound, Nat.le_refl _, htiles,
      fun _ => ⟨Nat.lt_add_of_pos_right hlen, Nat.sub_le _ _⟩,
      fun hlt => absurd hlt (Nat.lt_irrefl _)⟩
  | spliced _ _ _ _ hlater hcontent _ htiles =>
    cases hhead
    exact ⟨_, _, _, _, hcontent, Nat.le_of_lt hlater, htiles,
      fun heq => absurd heq (Nat.ne_of_lt hlater), fun _ => rfl⟩

namespace Document

/-- Where a block is that stands below nodes whose blocks tile a range of a source: in
    that range, or in a later source, which one of all these nodes has brought in. -/
inductive Ranged (doc : Document) (ids : List Nat) (s len lo hi : Nat) (block : Block) : Prop
  | inside : block.source = s → lo ≤ block.start → block.start < block.stopIn len →
      block.stopIn len ≤ hi → Ranged doc ids s len lo hi block
  | later {i : Nat} : s < block.source → i ∈ ids → doc.Expands i block.source →
      Ranged doc ids s len lo hi block

section

variable {doc : Document} {file : Inclusion → Source → Prop} {forest : Forest}
  {roots : List Nat} {s lo hi : Nat} {source : Source} {blocks : List Block}

theorem Ranged.mono {ids ids' : List Nat} {len lo' hi' : Nat} {block : Block}
    (h : doc.Ranged ids s len lo hi block) (hids : ids ⊆ ids') (hlo : lo' ≤ lo) (hhi : hi ≤ hi') :
    doc.Ranged ids' s len lo' hi' block := by
  cases h with
  | inside hs hstart hlt hstop =>
    exact .inside hs (Nat.le_trans hlo hstart) hlt (Nat.le_trans hstop hhi)
  | later hlt hi hexpands => exact .later hlt (hids hi) hexpands

theorem Arena.range (h : doc.Arena)
    (hall : ∀ id < doc.nodes.size, (doc.family id).Tiled doc.sources file)
    (hspells : forest.Spells doc roots) (hblocks : roots.map doc.blockOf? = blocks.map some)
    (hsource : doc.sources[s]? = some source)
    (htiles : Tiles s source.text.byteLen blocks lo hi) :
    ∀ j ∈ forest.ids, ∀ block, doc.blockOf? j = some block →
      doc.Ranged forest.ids s source.text.byteLen lo hi block := by
  induction hspells generalizing blocks s lo hi source with
  | nil => simp [Forest.ids]
  | @cons id below rest roots hbelow _ ihbelow ihrest =>
    cases blocks with
    | nil => simp at hblocks
    | cons first blocks =>
      rw [List.map_cons, List.map_cons, List.cons.injEq] at hblocks
      obtain ⟨hfirst, hblocks⟩ := hblocks
      obtain ⟨rfl, rfl, hlt, hrest⟩ := htiles
      have hinner : below.ids ⊆ (Forest.cons id below rest).ids := fun i hi =>
        List.mem_cons_of_mem _ (List.mem_append_left _ hi)
      have hothers : rest.ids ⊆ (Forest.cons id below rest).ids := fun i hi =>
        List.mem_cons_of_mem _ (List.mem_append_right _ hi)
      intro j hj block hblock
      rcases List.mem_cons.1 hj with rfl | hj
      · cases hfirst.symm.trans hblock
        exact .inside rfl (Nat.le_refl _) hlt hrest.le
      rcases List.mem_append.1 hj with hj | hj
      · have hmembers := h.hasChildren id
        obtain ⟨t, content, lo, hi, hcontent, hle, htiles, hends, hspliced⟩ :=
          (hall id (lt_size_of_block hfirst)).below hfirst
        rcases Nat.eq_or_lt_of_le hle with rfl | hlater
        · cases hsource.symm.trans hcontent
          obtain ⟨hlo, hhi⟩ := hends rfl
          exact (ihbelow hmembers hsource htiles j hj block hblock).mono hinner
            (Nat.le_of_lt hlo) (Nat.le_trans hhi hrest.le)
        · cases ihbelow hmembers hcontent htiles j hj block hblock with
          | inside ht =>
            -- the include itself has brought in the source of its children
            obtain ⟨c, hc, -⟩ := hbelow.under h j hj
            obtain ⟨child, hchild⟩ := h.child_block hc
            obtain ⟨hs, -, -⟩ := htiles.of_mem (mem_members_iff.2 ⟨c, hc, hchild⟩)
            refine .later (ht ▸ hlater) (List.mem_cons_self ..) ⟨hspliced hlater, c, hc, ?_⟩
            rw [sourceOf?, hchild, Option.map_some, hs, ht]
          | later hlt hi hexpands =>
            exact .later (Nat.lt_trans hlater hlt) (hinner hi) hexpands
      · exact (ihrest hblocks hsource hrest j hj block hblock).mono hothers (Nat.le_of_lt hlt)
          (Nat.le_refl _)

/-! ### Order -/

/-- Of two blocks of one source, the first begins before the other one. -/
def Precedes (doc : Document) (x y : Nat) : Prop :=
  ∀ block block', doc.blockOf? x = some block → doc.blockOf? y = some block' →
    block.source = block'.source → block.start < block'.start

/-- Of two closed blocks of one source, the first does not end after the other one. -/
def EndsFirst (doc : Document) (x y : Nat) : Prop :=
  ∀ block block' stop stop', doc.blockOf? x = some block → doc.blockOf? y = some block' →
    block.source = block'.source → block.stop = some stop → block'.stop = some stop' →
    stop ≤ stop'

/-- Each node is around what is below it, and before what its later siblings lead to. -/
def Ordered (doc : Document) : Forest → Prop
  | .nil => True
  | .cons id below rest =>
    (∀ x ∈ below.ids, doc.Precedes id x ∧ doc.EndsFirst x id) ∧
      (∀ x ∈ id :: below.ids, ∀ y ∈ rest.ids, doc.Precedes x y ∧ doc.EndsFirst x y) ∧
      doc.Ordered below ∧ doc.Ordered rest

theorem Ordered.pairwise_ids (h : doc.Ordered forest) : forest.ids.Pairwise doc.Precedes := by
  induction forest with
  | nil => exact .nil
  | cons id below rest ihbelow ihrest =>
    obtain ⟨haround, hbefore, hbelow, hrest⟩ := h
    rw [Forest.ids, List.pairwise_cons, List.pairwise_append]
    refine ⟨?_, ihbelow hbelow, ihrest hrest, ?_⟩
    · intro x hx
      rcases List.mem_append.1 hx with hx | hx
      · exact (haround x hx).1
      · exact (hbefore id (List.mem_cons_self ..) x hx).1
    · intro x hx y hy
      exact (hbefore x (List.mem_cons_of_mem _ hx) y hy).1

theorem perm_visits_outline (forest : Forest) (depth : Nat) :
    (forest.visits depth).Perm (forest.outline depth) := by
  induction forest generalizing depth with
  | nil => exact .nil
  | cons id below rest ihbelow ihrest =>
    exact List.perm_middle.trans (((ihbelow _).append (ihrest _)).cons _)

theorem Ordered.pairwise_visits (h : doc.Ordered forest) (depth : Nat) :
    ((forest.visits depth).map Visit.id).Pairwise doc.EndsFirst := by
  induction forest generalizing depth with
  | nil => exact .nil
  | cons id below rest ihbelow ihrest =>
    obtain ⟨haround, hbefore, hbelow, hrest⟩ := h
    have hmem : ∀ {forest : Forest} {depth x},
        x ∈ (forest.visits depth).map Visit.id → x ∈ forest.ids := by
      intro forest depth x hx
      rw [← forest.outline_ids depth]
      exact ((perm_visits_outline forest depth).map Visit.id).mem_iff.1 hx
    rw [Forest.visits, List.map_append, List.map_cons, List.pairwise_append, List.pairwise_cons]
    refine ⟨ihbelow hbelow _, ⟨?_, ihrest hrest _⟩, ?_⟩
    · intro y hy
      exact (hbefore id (List.mem_cons_self ..) y (hmem hy)).2
    · intro x hx y hy
      rcases List.mem_cons.1 hy with rfl | hy
      · exact (haround x (hmem hx)).2
      · exact (hbefore x (List.mem_cons_of_mem _ (hmem hx)) y (hmem hy)).2

theorem stopIn_of_closed {block : Block} {stop : Nat} (h : block.stop = some stop) (len : Nat) :
    block.stopIn len = stop := by
  rw [Block.stopIn, h]
  rfl

/-- What is within the ends of a block is below it in both orders. -/
theorem Ranged.around {ids : List Nat} {len x id : Nat} {first : Block}
    (h : ∀ block, doc.blockOf? x = some block → doc.Ranged ids s len lo hi block)
    (hfirst : doc.blockOf? id = some first) (hs : first.source ≤ s)
    (hlo : first.source = s → first.start < lo ∧ hi ≤ first.stopIn len) :
    doc.Precedes id x ∧ doc.EndsFirst x id := by
  constructor
  · intro block block' hblock hblock' hsame
    cases hfirst.symm.trans hblock
    cases h block' hblock' with
    | inside hs' hstart => exact Nat.lt_of_lt_of_le (hlo (hsame.trans hs')).1 hstart
    | later hlt => omega
  · intro block block' stop stop' hblock hblock' hsame hstop hstop'
    cases hfirst.symm.trans hblock'
    cases h block hblock with
    | inside hs' _ _ hend =>
      rw [stopIn_of_closed hstop] at hend
      have hle := (hlo (hsame.symm.trans hs')).2
      rw [stopIn_of_closed hstop'] at hle
      exact Nat.le_trans hend hle
    | later hlt => omega

/-- What lies in two ranges, one after the other, comes in this order; sources that have
    been brought in below different nodes are different ones. -/
theorem Ranged.before {ids ids' : List Nat} {len mid x y : Nat} (hapart : doc.Apart)
    (hdisjoint : ids.Disjoint ids')
    (hx : ∀ block, doc.blockOf? x = some block → doc.Ranged ids s len lo mid block)
    (hy : ∀ block, doc.blockOf? y = some block → doc.Ranged ids' s len mid hi block) :
    doc.Precedes x y ∧ doc.EndsFirst x y := by
  have hranges : ∀ block block', doc.blockOf? x = some block → doc.blockOf? y = some block' →
      block.source = block'.source → block.start < block.stopIn len ∧
        block.stopIn len ≤ block'.start ∧ block'.start < block'.stopIn len := by
    intro block block' hblock hblock' hsame
    cases hx block hblock with
    | inside hs _ hlt hstop =>
      cases hy block' hblock' with
      | inside _ hstart' hlt' => exact ⟨hlt, Nat.le_trans hstop hstart', hlt'⟩
      | later hlt => omega
    | later hlt hi hexpands =>
      cases hy block' hblock' with
      | inside hs' => omega
      | later _ hj hexpands' =>
        rw [hsame] at hexpands
        exact absurd (hapart _ _ _ hexpands hexpands' ▸ hj) (hdisjoint hi)
  constructor
  · intro block block' hblock hblock' hsame
    obtain ⟨hlt, hle, -⟩ := hranges block block' hblock hblock' hsame
    exact Nat.lt_of_lt_of_le hlt hle
  · intro block block' stop stop' hblock hblock' hsame hstop hstop'
    obtain ⟨-, hle, hlt⟩ := hranges block block' hblock hblock' hsame
    rw [stopIn_of_closed hstop] at hle
    rw [stopIn_of_closed hstop'] at hlt
    exact Nat.le_trans hle (Nat.le_of_lt hlt)

theorem Arena.ordered (h : doc.Arena) (hapart : doc.Apart)
    (hall : ∀ id < doc.nodes.size, (doc.family id).Tiled doc.sources file)
    (hspells : forest.Spells doc roots) (hnodup : forest.ids.Nodup)
    (hblocks : roots.map doc.blockOf? = blocks.map some) (hsource : doc.sources[s]? = some source)
    (htiles : Tiles s source.text.byteLen blocks lo hi) : doc.Ordered forest := by
  induction hspells generalizing blocks s lo hi source with
  | nil => trivial
  | @cons id below rest roots hbelow hrest ihbelow ihrest =>
    cases blocks with
    | nil => simp at hblocks
    | cons first blocks =>
      rw [List.map_cons, List.map_cons, List.cons.injEq] at hblocks
      obtain ⟨hfirst, hblocks⟩ := hblocks
      obtain ⟨rfl, rfl, hlt, hothers⟩ := htiles
      rw [Forest.ids, ← List.cons_append, List.nodup_append'] at hnodup
      obtain ⟨hinner, hlater, hdisjoint⟩ := hnodup
      have hmembers := h.hasChildren id
      have hnode : ∀ x ∈ id :: below.ids, ∀ block, doc.blockOf? x = some block →
          doc.Ranged (id :: below.ids) first.source source.text.byteLen first.start
            (first.stopIn source.text.byteLen) block := by
        have hone : Tiles first.source source.text.byteLen [first] first.start
            (first.stopIn source.text.byteLen) := ⟨rfl, rfl, hlt, rfl⟩
        have hranges := h.range hall (.cons hbelow .nil) (by simp [hfirst]) hsource hone
        rwa [Forest.ids, Forest.ids, List.append_nil] at hranges
      obtain ⟨t, content, lo, hi, hcontent, hle, htiles, hends, -⟩ :=
        (hall id (lt_size_of_block hfirst)).below hfirst
      refine ⟨?_, ?_, ?_, ihrest hlater hblocks hsource hothers⟩
      · intro x hx
        exact Ranged.around (h.range hall hbelow hmembers hcontent htiles x hx) hfirst hle hends
      · intro x hx y hy
        exact Ranged.before hapart hdisjoint (hnode x hx)
          (h.range hall hrest hblocks hsource hothers y hy)
      · exact ihbelow (List.nodup_cons.1 hinner).2 hmembers hcontent htiles

end

/-! ### The walks -/

section

variable {doc : Document} {file : Inclusion → Source → Prop}

/-- The blocks of a source among some nodes, in the order of the nodes. -/
def blocksOf (doc : Document) (s : Nat) (ids : List Nat) : List Block :=
  ids.filterMap fun id => (doc.blockOf? id).filter (·.source == s)

theorem mem_filter_source {s : Nat} {block? : Option Block} {block : Block}
    (h : block ∈ block?.filter (·.source == s)) : block? = some block ∧ block.source = s := by
  obtain ⟨hblock, hs⟩ := Option.filter_eq_some_iff.1 h
  exact ⟨hblock, by simpa using hs⟩

theorem pairwise_begins {ids : List Nat} (h : ids.Pairwise doc.Precedes) (s : Nat) :
    ((doc.blocksOf s ids).map Block.start).Pairwise (· < ·) := by
  rw [List.pairwise_map]
  refine h.filterMap _ fun x y hxy block hblock block' hblock' => ?_
  obtain ⟨hblock, hs⟩ := mem_filter_source hblock
  obtain ⟨hblock', hs'⟩ := mem_filter_source hblock'
  exact hxy block block' hblock hblock' (hs.trans hs'.symm)

theorem pairwise_ends {ids : List Nat} (h : ids.Pairwise doc.EndsFirst) (s : Nat) :
    ((doc.blocksOf s ids).filterMap Block.stop).Pairwise (· ≤ ·) := by
  rw [List.pairwise_filterMap]
  refine h.filterMap _ fun x y hxy block hblock block' hblock' stop hstop stop' hstop' => ?_
  obtain ⟨hblock, hs⟩ := mem_filter_source hblock
  obtain ⟨hblock', hs'⟩ := mem_filter_source hblock'
  exact hxy block block' stop stop' hblock hblock' (hs.trans hs'.symm) hstop hstop'

/-- The nodes whose block has this name. -/
def Named (doc : Document) (name : Text) (id : Nat) : Prop :=
  ∃ block, doc.blockOf? id = some block ∧ block.name = name

/-- Looking for a name lists what the walk lists, without the nodes of other names. -/
theorem exists_matching {parents : List Visit} (hwalk : doc.preorder = .ok parents)
    (hnodup : (parents.map Visit.id).Nodup)
    (hreach : ∀ id, id ∈ parents.map Visit.id ↔ doc.Reachable id) (name : Text) :
    ∃ ids, doc.matching name = .ok ids ∧ ids.Nodup ∧ ids.Sublist (parents.map Visit.id) ∧
      ∀ id, id ∈ ids ↔ doc.Reachable id ∧ doc.Named name id := by
  rw [matching, hwalk]
  refine ⟨_, rfl, hnodup.filter _, List.filter_sublist, fun id => ?_⟩
  rw [List.mem_filter, hreach, and_congr_right_iff]
  intro _
  unfold Named blockOf?
  cases doc.nodes[id]?.bind Node.block with
  | none => simp
  | some block => simp

/-- Both walks meet the blocks of every source in its order, and so do the lists of nodes
    whose block has a name. -/
structure InSourceOrder (doc : Document) (parents children : List Visit) : Prop where
  preorder_eq : doc.preorder = .ok parents
  postorder_eq : doc.postorder = .ok children
  /-- Both walks visit the nodes that the root leads to, each once. -/
  reachable : ∀ id, id ∈ parents.map Visit.id ↔ doc.Reachable id
  nodup : (parents.map Visit.id).Nodup
  perm : children.Perm parents
  begins : ∀ s, ((doc.blocksOf s (parents.map Visit.id)).map Block.start).Pairwise (· < ·)
  /-- All blocks have their end. -/
  closed : ∀ id block, doc.Reachable id → doc.blockOf? id = some block → block.isClosed = true
  ends : ∀ s, ((doc.blocksOf s (children.map Visit.id)).filterMap Block.stop).Pairwise (· ≤ ·)
  /-- Looking for a name keeps the order of the walk that visits parents first. -/
  matching : ∀ name, ∃ ids, doc.matching name = .ok ids ∧ ids.Nodup ∧
    ids.Sublist (parents.map Visit.id) ∧ ∀ id, id ∈ ids ↔ doc.Reachable id ∧ doc.Named name id
  /-- No two includes share a source, also if they name the same file. -/
  apart : doc.Apart

theorem Arena.inSourceOrder (h : doc.Arena) (hapart : doc.Apart)
    (hall : ∀ id < doc.nodes.size, (doc.family id).Tiled doc.sources file)
    (hclosed : ∀ id block, doc.blockOf? id = some block → block.stop ≠ none) :
    ∃ parents children, doc.InSourceOrder parents children := by
  obtain ⟨tree, hspells, hnodup, hreach⟩ := h.exists_tree
  have hordered : doc.Ordered tree := by
    cases hspells with
    | @cons _ below rest _ hbelow hrest =>
      cases hrest
      obtain ⟨main, hmain, htiles⟩ := (hall root h.size_pos).of_root h.root_block
      have hinner : below.ids.Nodup := by
        simpa [Forest.ids] using (List.nodup_cons.1 hnodup).2
      refine ⟨?_, by simp [Forest.ids], ?_, trivial⟩
      · -- the root has no block
        intro x _
        exact ⟨fun block _ hblock => by simp [h.root_block] at hblock,
          fun _ block _ _ _ hblock => by simp [h.root_block] at hblock⟩
      · exact h.ordered hapart hall hbelow hinner (h.hasChildren root) hmain htiles
  have hids := tree.outline_ids 0
  have hwalk : doc.preorder = .ok (tree.outline 0) := preorderFrom_eq h hspells h.size_pos
  refine ⟨tree.outline 0, tree.visits 0, hwalk, postorderFrom_eq h hspells h.size_pos, ?_, ?_, ?_,
    ?_, ?_, ?_, ?_, hapart⟩
  · rwa [hids]
  · rwa [hids]
  · exact perm_visits_outline tree 0
  · intro s
    rw [hids]
    exact pairwise_begins hordered.pairwise_ids s
  · intro id block _ hblock
    exact Option.isSome_iff_ne_none.2 (hclosed id block hblock)
  · exact pairwise_ends (hordered.pairwise_visits 0)
  · exact exists_matching hwalk (hids ▸ hnodup) (by rwa [hids])

end

end Document

end Blockwise
