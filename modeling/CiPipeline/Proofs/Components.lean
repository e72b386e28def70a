import CiPipeline.Proofs.Cycles
import Mathlib.Data.List.Pairwise

set_option autoImplicit false

/-! # Cycles from components

Cycles are usually found in steps. If the names can be sorted, there are none. Otherwise there is
one for each strongly connected component of the graph, except for the components that are a
single name without an edge to itself; and all is put in the order of the first registration. The
steps give the cycles that are reported, whatever algorithms sort the names and look for the
components (`cyclesBy_eq_dependencyCycles`). For this it is enough that there is only one list of
cycles (`AreCycles.unique`).
-/

namespace CiPipeline

open Relation

variable {jobs : List Job}

/-! ## The only list of cycles -/

/-- Lists with the same members that increase in the same sense are equal. -/
theorem eq_of_pairwise_of_mem_iff {α : Type} {r : α → α → Prop} {l m : List α}
    (hr : ∀ a ∈ l, ∀ b ∈ l, r a b → ¬ r b a) (hl : l.Pairwise r) (hm : m.Pairwise r)
    (h : ∀ a, a ∈ l ↔ a ∈ m) : l = m := by
  -- no member is related to itself, so that neither list has a member twice
  have hne : ∀ a ∈ l, ∀ b ∈ l, r a b → a ≠ b := by
    rintro a ha _ hb hab rfl
    exact hr a ha a ha hab hab
  have hl_nodup : l.Nodup := hl.imp_of_mem fun ha hb => hne _ ha _ hb
  have hm_nodup : m.Nodup := hm.imp_of_mem fun ha hb => hne _ ((h _).2 ha) _ ((h _).2 hb)
  refine List.Perm.eq_of_pairwise ?_ hl hm ((List.perm_ext_iff_of_nodup hl_nodup hm_nodup).2 h)
  intro a b ha hb hab hba
  exact absurd hba (hr a ha b ((h b).2 hb) hab)

theorem apart_symm {c d : List String} (h : ∀ a ∈ c, a ∉ d) : ∀ a ∈ d, a ∉ c :=
  fun a had hac => h a hac had

/-- Of groups without a common member, only one has a given member. -/
theorem eq_of_mem_of_disjoint {groups : List (List String)}
    (h : groups.Pairwise fun c d => ∀ a ∈ c, a ∉ d) {c d : List String} (hc : c ∈ groups)
    (hd : d ∈ groups) {a : String} (hac : a ∈ c) (had : a ∈ d) : c = d := by
  have hsymm : Std.Symm fun c d : List String => ∀ a ∈ c, a ∉ d := ⟨fun _ _ => apart_symm⟩
  by_contra hne
  exact h.forall hc hd hne a hac had

namespace AreCycles

variable {cycles others : List (List String)}

/-- Two names of a group depend on each other. -/
theorem chains (h : AreCycles jobs cycles) {cycle : List String} (hcycle : cycle ∈ cycles)
    {a b : String} (ha : a ∈ cycle) (hb : b ∈ cycle) :
    TransGen (DependsOn jobs) a b ∧ TransGen (DependsOn jobs) b a :=
  (h.together a b).1 ⟨cycle, hcycle, ha, hb⟩

/-- All that depends on a name of a group, and on which the name depends, is in the group. -/
theorem mem_of_chains (h : AreCycles jobs cycles) {cycle : List String} (hcycle : cycle ∈ cycles)
    {a b : String} (ha : a ∈ cycle) (hab : TransGen (DependsOn jobs) a b)
    (hba : TransGen (DependsOn jobs) b a) : b ∈ cycle := by
  obtain ⟨c, hc, hac, hbc⟩ := (h.together a b).2 ⟨hab, hba⟩
  rwa [eq_of_mem_of_disjoint h.disjoint hcycle hc ha hac]

/-- The groups of one list are those of the other. -/
theorem mem_of_mem (h : AreCycles jobs cycles) (h' : AreCycles jobs others)
    {cycle : List String} (hcycle : cycle ∈ cycles) : cycle ∈ others := by
  obtain ⟨a, ha⟩ := List.exists_mem_of_ne_nil _ (h.inhabited cycle hcycle)
  have hself := h.chains hcycle ha ha
  obtain ⟨other, hother, ha', -⟩ := (h'.together a a).2 hself
  -- both groups have the names that depend on `a` and on which `a` depends
  have hmem : ∀ b, b ∈ cycle ↔ b ∈ other := by
    intro b
    constructor
    · intro hb
      obtain ⟨hab, hba⟩ := h.chains hcycle ha hb
      exact h'.mem_of_chains hother ha' hab hba
    · intro hb
      obtain ⟨hab, hba⟩ := h'.chains hother ha' hb
      exact h.mem_of_chains hcycle ha hab hba
  have heq : cycle = other :=
    eq_of_pairwise_of_mem_iff (fun _ _ _ _ => Nat.lt_asymm) (h.members_sorted cycle hcycle)
      (h'.members_sorted other hother) hmem
  rwa [heq]

/-- **There is only one list of cycles.** -/
theorem unique (h : AreCycles jobs cycles) (h' : AreCycles jobs others) : cycles = others := by
  refine eq_of_pairwise_of_mem_iff ?_ h.sorted h'.sorted
    fun cycle => ⟨h.mem_of_mem h', h'.mem_of_mem h⟩
  -- every group has a first name, so that no two groups come before each other
  intro c hc d hd hcd hdc
  obtain ⟨a, ha⟩ := Option.ne_none_iff_exists'.1 (mt List.head?_eq_none_iff.1 (h.inhabited c hc))
  obtain ⟨b, hb⟩ := Option.ne_none_iff_exists'.1 (mt List.head?_eq_none_iff.1 (h.inhabited d hd))
  have hab : registration jobs a < registration jobs b := hcd a ha b hb
  have hba : registration jobs b < registration jobs a := hdc b hb a ha
  omega

end AreCycles

/-! ## Graphs of names -/

/-- Names, and pairs of them: an edge leads from the first to the second. -/
structure NameGraph where
  nodes : List String
  edges : List (String × String)
  nodup : nodes.Nodup
  closed : ∀ e ∈ edges, e.1 ∈ nodes ∧ e.2 ∈ nodes

namespace NameGraph

/-- An edge leads from `a` to `b`. -/
def Leads (g : NameGraph) (a b : String) : Prop := (a, b) ∈ g.edges

/-- All nodes in an order along the edges. -/
def Sorted (g : NameGraph) (order : List String) : Prop :=
  order.Perm g.nodes ∧ InOrder (fun a b => g.Leads b a) order

/-- The answer of a topological sort: the nodes in an order along the edges, or nothing if there
is no such order. -/
def IsSort (g : NameGraph) (answer : Option (List String)) : Prop :=
  (∀ order, answer = some order → g.Sorted order) ∧
  (answer = none → ∀ order, ¬ g.Sorted order)

/-- The nodes are the same or reach each other. -/
def Together (g : NameGraph) (a b : String) : Prop :=
  a = b ∨ TransGen g.Leads a b ∧ TransGen g.Leads b a

/-- The answer of an algorithm for strongly connected components. Nothing is said of the order of
the components and of the names in them. -/
structure AreComponents (g : NameGraph) (components : List (List String)) : Prop where
  /-- Every node is in exactly one component, once. -/
  nodes : components.flatten.Perm g.nodes
  inhabited : ∀ c ∈ components, c ≠ []
  /-- Two nodes are in one component iff they are the same or reach each other. -/
  together : ∀ a ∈ g.nodes, ∀ b ∈ g.nodes, (∃ c ∈ components, a ∈ c ∧ b ∈ c) ↔ g.Together a b

/-- The component has more than one node, or an edge from its only node to itself. -/
def isCyclic (g : NameGraph) (component : List String) : Bool :=
  decide (1 < component.length) || component.head?.any fun a => g.edges.contains (a, a)

variable {g : NameGraph} {components : List (List String)}

theorem mem_nodes_of_chain {a b : String} (h : TransGen g.Leads a b) : a ∈ g.nodes := by
  obtain ⟨c, hac, -⟩ := TransGen.head'_iff.1 h
  exact (g.closed _ hac).1

namespace AreComponents

theorem nodup_flatten (h : g.AreComponents components) : components.flatten.Nodup :=
  h.nodes.nodup_iff.2 g.nodup

theorem nodup (h : g.AreComponents components) {c : List String} (hc : c ∈ components) :
    c.Nodup :=
  (List.pairwise_flatten.1 h.nodup_flatten).1 c hc

theorem disjoint (h : g.AreComponents components) :
    components.Pairwise fun c d => ∀ a ∈ c, a ∉ d :=
  (List.pairwise_flatten.1 h.nodup_flatten).2.imp fun hcd a ha ha' => hcd a ha a ha' rfl

theorem mem_nodes (h : g.AreComponents components) {c : List String} (hc : c ∈ components)
    {a : String} (ha : a ∈ c) : a ∈ g.nodes :=
  h.nodes.mem_iff.1 (List.mem_flatten.2 ⟨c, hc, ha⟩)

theorem together_of_mem (h : g.AreComponents components) {c : List String} (hc : c ∈ components)
    {a b : String} (ha : a ∈ c) (hb : b ∈ c) : g.Together a b :=
  (h.together a (h.mem_nodes hc ha) b (h.mem_nodes hc hb)).1 ⟨c, hc, ha, hb⟩

/-- A component has all nodes that one of its nodes reaches and that reach it. -/
theorem mem_of_chains (h : g.AreComponents components) {c : List String} (hc : c ∈ components)
    {a b : String} (ha : a ∈ c) (hab : TransGen g.Leads a b) (hba : TransGen g.Leads b a) :
    b ∈ c := by
  obtain ⟨d, hd, had, hbd⟩ := (h.together a (mem_nodes_of_chain hab) b
    (mem_nodes_of_chain hba)).2 (Or.inr ⟨hab, hba⟩)
  rwa [eq_of_mem_of_disjoint h.disjoint hc hd ha had]

/-- The components that are kept are those whose nodes reach themselves. -/
theorem isCyclic_iff (h : g.AreComponents components) {c : List String} (hc : c ∈ components)
    {a : String} (ha : a ∈ c) : g.isCyclic c = true ↔ TransGen g.Leads a a := by
  match c, hc, ha with
  | [b], hc, ha =>
      obtain rfl := List.mem_singleton.1 ha
      have hself : g.isCyclic [a] = true ↔ g.Leads a a := by
        simp [isCyclic, Leads]
      rw [hself]
      refine ⟨TransGen.single, fun hchain => ?_⟩
      -- the next node on the chain is in the component as well, so that it is `a`
      obtain ⟨b, hab, hba⟩ := TransGen.head'_iff.1 hchain
      rcases reflTransGen_iff_eq_or_transGen.1 hba with rfl | hba
      · exact hab
      · obtain rfl := List.mem_singleton.1 (h.mem_of_chains hc ha (.single hab) hba)
        exact hab
  | b :: d :: rest, hc, ha =>
      have hlength : g.isCyclic (b :: d :: rest) = true := by
        simp [isCyclic]
      -- of two nodes at least one is not `a`, and `a` is on a chain through that one
      have hbd : b ≠ d := fun heq =>
        (List.nodup_cons.1 (h.nodup hc)).1 (heq ▸ List.mem_cons_self)
      obtain ⟨other, hother, hne⟩ : ∃ other ∈ b :: d :: rest, a ≠ other := by
        by_cases hab : a = b
        · exact ⟨d, List.mem_cons_of_mem b List.mem_cons_self, hab ▸ hbd⟩
        · exact ⟨b, List.mem_cons_self, hab⟩
      obtain ⟨hthere, hback⟩ := (h.together_of_mem hc ha hother).resolve_left hne
      exact iff_of_true hlength (hthere.trans hback)

end AreComponents

/-! ### Answers exist -/

theorem Together.symm {a b : String} (h : g.Together a b) : g.Together b a :=
  h.imp Eq.symm And.symm

theorem Together.trans {a b c : String} (hab : g.Together a b) (hbc : g.Together b c) :
    g.Together a c := by
  rcases hab with rfl | ⟨hab, hba⟩
  · exact hbc
  · rcases hbc with rfl | ⟨hbc, hcb⟩
    · exact Or.inr ⟨hab, hba⟩
    · exact Or.inr ⟨hab.trans hbc, hcb.trans hba⟩

open Classical in
/-- The nodes together with a given one. -/
noncomputable def classOf (g : NameGraph) (a : String) : List String :=
  g.nodes.filter fun b => g.Together a b

/-- The nodes put together, without any algorithm. -/
noncomputable def classes (g : NameGraph) : List (List String) :=
  (g.nodes.map g.classOf).eraseDups

theorem mem_classOf {a b : String} : b ∈ g.classOf a ↔ b ∈ g.nodes ∧ g.Together a b := by
  simp only [classOf, List.mem_filter, decide_eq_true_eq]

theorem self_mem_classOf {a : String} (ha : a ∈ g.nodes) : a ∈ g.classOf a :=
  mem_classOf.2 ⟨ha, Or.inl rfl⟩

theorem mem_classes {c : List String} : c ∈ g.classes ↔ ∃ a ∈ g.nodes, g.classOf a = c := by
  rw [classes, List.mem_eraseDups, List.mem_map]

theorem classOf_eq_of_mem {a b : String} (h : b ∈ g.classOf a) : g.classOf b = g.classOf a := by
  have hab := (mem_classOf.1 h).2
  refine List.filter_congr fun c _ => ?_
  rw [decide_eq_decide]
  exact ⟨hab.trans, hab.symm.trans⟩

/-- No node is in two classes, or twice in one. -/
theorem nodup_flatten_classes (g : NameGraph) : g.classes.flatten.Nodup := by
  refine List.pairwise_flatten.2 ⟨fun c hc => ?_, (nodup_eraseDups _).imp_of_mem ?_⟩
  · obtain ⟨a, -, rfl⟩ := mem_classes.1 hc
    exact g.nodup.sublist List.filter_sublist
  · -- a node of two classes would make them one
    intro c d hc hd hne x hxc y hyd hxy
    obtain ⟨a, -, rfl⟩ := mem_classes.1 hc
    obtain ⟨b, -, rfl⟩ := mem_classes.1 hd
    exact hne ((classOf_eq_of_mem hxc).symm.trans (classOf_eq_of_mem (hxy ▸ hyd)))

theorem areComponents_classes (g : NameGraph) : g.AreComponents g.classes where
  nodes := by
    refine (List.perm_ext_iff_of_nodup g.nodup_flatten_classes g.nodup).2 fun a => ?_
    rw [List.mem_flatten]
    constructor
    · rintro ⟨c, hc, ha⟩
      obtain ⟨b, -, rfl⟩ := mem_classes.1 hc
      exact (mem_classOf.1 ha).1
    · intro ha
      exact ⟨g.classOf a, mem_classes.2 ⟨a, ha, rfl⟩, self_mem_classOf ha⟩
  inhabited c hc := by
    obtain ⟨a, ha, rfl⟩ := mem_classes.1 hc
    exact List.ne_nil_of_mem (self_mem_classOf ha)
  together a ha b hb := by
    constructor
    · rintro ⟨c, hc, hac, hbc⟩
      obtain ⟨x, -, rfl⟩ := mem_classes.1 hc
      exact (mem_classOf.1 hac).2.symm.trans (mem_classOf.1 hbc).2
    · intro hab
      exact ⟨g.classOf a, mem_classes.2 ⟨a, ha, rfl⟩, self_mem_classOf ha,
        mem_classOf.2 ⟨hb, hab⟩⟩

/-- There are algorithms that answer for every graph. -/
theorem exists_answers : ∃ (sort : NameGraph → Option (List String))
    (components : NameGraph → List (List String)),
    ∀ g : NameGraph, g.IsSort (sort g) ∧ g.AreComponents (components g) := by
  have hsort : ∀ g : NameGraph, ∃ answer, g.IsSort answer := by
    intro g
    by_cases h : ∃ order, g.Sorted order
    · obtain ⟨order, horder⟩ := h
      refine ⟨some order, fun o ho => ?_, fun hnone => absurd hnone (Option.some_ne_none _)⟩
      rwa [← Option.some.inj ho]
    · refine ⟨none, fun o ho => ?_, fun _ order horder => h ⟨order, horder⟩⟩
      cases ho
  choose sort hsort using hsort
  exact ⟨sort, classes, fun g => ⟨hsort g, g.areComponents_classes⟩⟩

end NameGraph

/-! ## The steps -/

/-- The graph of the registered names. Edges lead from the names that a job depends on to the
name of the job. -/
def nameGraph (jobs : List Job) : NameGraph where
  nodes := jobNames jobs
  edges := jobs.flatMap fun j =>
    (j.dependencyNames.filter (jobNames jobs).contains).map fun dependency => (dependency, j.name)
  nodup := nodup_jobNames jobs
  closed := by
    intro e he
    obtain ⟨j, hj, he⟩ := List.mem_flatMap.1 he
    obtain ⟨dependency, hdependency, rfl⟩ := List.mem_map.1 he
    exact ⟨List.contains_iff_mem.1 (List.mem_filter.1 hdependency).2, mem_jobNames.2 ⟨j, hj, rfl⟩⟩

/-- Names in the order of their first registration. -/
def byRegistration (jobs : List Job) (names : List String) : List String :=
  names.mergeSort fun a b => decide (registration jobs a ≤ registration jobs b)

/-- By what groups are sorted: the first registration of their first names. A group without names
would come before all others. -/
def firstRegistration (jobs : List Job) (group : List String) : Nat :=
  match group.head? with
  | none => 0
  | some a => registration jobs a + 1

/-- What is left of the components, in the order of the first registration. -/
def cyclesAmong (jobs : List Job) (components : List (List String)) : List (List String) :=
  ((components.filter (nameGraph jobs).isCyclic).map (byRegistration jobs)).mergeSort
    fun c d => decide (firstRegistration jobs c ≤ firstRegistration jobs d)

/-- The cycles as they are found by a topological sort and an algorithm for components. -/
def cyclesBy (sort : NameGraph → Option (List String))
    (components : NameGraph → List (List String)) (jobs : List Job) : List (List String) :=
  match sort (nameGraph jobs) with
  | some _ => []
  | none => cyclesAmong jobs (components (nameGraph jobs))

variable {components : List (List String)}

theorem leads_nameGraph {a b : String} : (nameGraph jobs).Leads a b ↔ DependsOn jobs b a := by
  simp only [NameGraph.Leads, nameGraph, DependsOn, List.mem_flatMap, List.mem_map,
    List.mem_filter, List.contains_iff_mem, mem_jobNames, Prod.mk.injEq]
  constructor
  · rintro ⟨j, hj, a, ⟨hdep, hreg⟩, rfl, rfl⟩
    exact ⟨⟨j, hj, rfl, hdep⟩, hreg⟩
  · rintro ⟨⟨j, hj, rfl, hdep⟩, hreg⟩
    exact ⟨j, hj, a, ⟨hdep, hreg⟩, rfl, rfl⟩

theorem chain_nameGraph {a b : String} :
    TransGen (nameGraph jobs).Leads a b ↔ TransGen (DependsOn jobs) b a := by
  have hswap : (nameGraph jobs).Leads = Function.swap (DependsOn jobs) := by
    funext a b
    exact propext leads_nameGraph
  rw [hswap, transGen_swap]

theorem sorted_nameGraph {order : List String} :
    (nameGraph jobs).Sorted order ↔ order.Perm (jobNames jobs) ∧ InOrder (DependsOn jobs) order := by
  have hswap : (fun a b => (nameGraph jobs).Leads b a) = DependsOn jobs := by
    funext a b
    exact propext leads_nameGraph
  rw [NameGraph.Sorted, hswap]
  rfl

theorem registration_inj {a b : String} (ha : a ∈ jobNames jobs)
    (h : registration jobs a = registration jobs b) : a = b := by
  obtain ⟨j, hj, rfl⟩ := mem_jobNames.1 ha
  exact (List.idxOf_inj (List.mem_map_of_mem hj)).1 h

theorem mem_byRegistration {a : String} {names : List String} :
    a ∈ byRegistration jobs names ↔ a ∈ names := List.mem_mergeSort

theorem pairwise_byRegistration {names : List String} (hnodup : names.Nodup)
    (hnames : ∀ a ∈ names, a ∈ jobNames jobs) :
    (byRegistration jobs names).Pairwise fun a b => registration jobs a < registration jobs b := by
  have hne : (byRegistration jobs names).Nodup := (List.mergeSort_perm names _).nodup_iff.2 hnodup
  refine ((pairwise_mergeSort_key (registration jobs) names).and hne).imp_of_mem ?_
  intro a b ha _ h
  have hreg : registration jobs a ≠ registration jobs b := fun heq =>
    h.2 (registration_inj (hnames a (mem_byRegistration.1 ha)) heq)
  omega

theorem mem_cyclesAmong {cycle : List String} :
    cycle ∈ cyclesAmong jobs components ↔
      ∃ c ∈ components, (nameGraph jobs).isCyclic c = true ∧ byRegistration jobs c = cycle := by
  simp only [cyclesAmong, List.mem_mergeSort, List.mem_map, List.mem_filter, and_assoc]

/-- The cycles among the components have no name in common. -/
theorem disjoint_cyclesAmong (h : (nameGraph jobs).AreComponents components) :
    (cyclesAmong jobs components).Pairwise fun c d => ∀ a ∈ c, a ∉ d := by
  rw [cyclesAmong, (List.mergeSort_perm _ _).pairwise_iff apart_symm, List.pairwise_map]
  refine (h.disjoint.filter _).imp fun hcd a ha ha' => ?_
  exact hcd a (mem_byRegistration.1 ha) (mem_byRegistration.1 ha')

/-- **What is left of the components are cycles.** -/
theorem areCycles_cyclesAmong (h : (nameGraph jobs).AreComponents components) :
    AreCycles jobs (cyclesAmong jobs components) where
  together a b := by
    constructor
    · rintro ⟨cycle, hcycle, ha, hb⟩
      obtain ⟨c, hc, hcyclic, rfl⟩ := mem_cyclesAmong.1 hcycle
      rw [mem_byRegistration] at ha hb
      -- edges run against the dependencies
      rw [← chain_nameGraph, ← chain_nameGraph, and_comm]
      rcases h.together_of_mem hc ha hb with rfl | hchains
      · have hself := (h.isCyclic_iff hc ha).1 hcyclic
        exact ⟨hself, hself⟩
      · exact hchains
    · rintro ⟨hab, hba⟩
      rw [← chain_nameGraph] at hab hba
      obtain ⟨c, hc, ha, hb⟩ := (h.together a (NameGraph.mem_nodes_of_chain hba) b
        (NameGraph.mem_nodes_of_chain hab)).2 (Or.inr ⟨hba, hab⟩)
      have hcyclic := (h.isCyclic_iff hc ha).2 (hba.trans hab)
      exact ⟨_, mem_cyclesAmong.2 ⟨c, hc, hcyclic, rfl⟩, mem_byRegistration.2 ha,
        mem_byRegistration.2 hb⟩
  disjoint := disjoint_cyclesAmong h
  inhabited cycle hcycle := by
    obtain ⟨c, hc, -, rfl⟩ := mem_cyclesAmong.1 hcycle
    obtain ⟨a, ha⟩ := List.exists_mem_of_ne_nil _ (h.inhabited c hc)
    exact List.ne_nil_of_mem (mem_byRegistration.2 ha)
  members_sorted cycle hcycle := by
    obtain ⟨c, hc, -, rfl⟩ := mem_cyclesAmong.1 hcycle
    exact pairwise_byRegistration (h.nodup hc) fun a ha => h.mem_nodes hc ha
  sorted := by
    have hle := pairwise_mergeSort_key (firstRegistration jobs)
      ((components.filter (nameGraph jobs).isCyclic).map (byRegistration jobs))
    refine (List.Pairwise.and hle (disjoint_cyclesAmong h)).imp_of_mem ?_
    intro c d hc _ hcd a ha b hb
    -- the first names are different ones, since the groups have none in common
    have hab : a ≠ b := by
      rintro rfl
      exact hcd.2 a (List.mem_of_mem_head? ha) (List.mem_of_mem_head? hb)
    obtain ⟨component, hcomponent, -, rfl⟩ := mem_cyclesAmong.1 hc
    have hnode : a ∈ jobNames jobs :=
      h.mem_nodes hcomponent (mem_byRegistration.1 (List.mem_of_mem_head? ha))
    have hreg : registration jobs a ≠ registration jobs b := mt (registration_inj hnode) hab
    have hfirst := hcd.1
    rw [firstRegistration, firstRegistration, Option.mem_def.1 ha, Option.mem_def.1 hb] at hfirst
    dsimp only at hfirst
    omega

/-- **The steps give the reported cycles**, whatever sorts the names and finds the components. -/
theorem cyclesBy_eq_dependencyCycles {sort : NameGraph → Option (List String)}
    {components : NameGraph → List (List String)}
    (hsort : (nameGraph jobs).IsSort (sort (nameGraph jobs)))
    (hcomponents : (nameGraph jobs).AreComponents (components (nameGraph jobs))) :
    cyclesBy sort components jobs = dependencyCycles jobs := by
  rw [cyclesBy]
  cases hanswer : sort (nameGraph jobs) with
  | some order =>
      have horder := sorted_nameGraph.1 (hsort.1 order hanswer)
      exact (dependencyCycles_eq_nil_iff_exists_order.2 ⟨order, horder⟩).symm
  | none => exact (areCycles_cyclesAmong hcomponents).unique (dependencyCycles_areCycles jobs)

/-- The names of a component are reported in the order of their registration. -/
example : cyclesBy (fun _ => none) (fun _ => [["Lint"], ["Build", "Test"]])
    [.ofSteps "Test" [(Step.ofCommands ["make test"]).withJobDependency "Build"],
      .ofSteps "Lint" [.ofCommands ["make lint"]],
      .ofSteps "Build" [(Step.ofCommands ["make"]).withJobDependency "Test"]] =
    [["Test", "Build"]] := by
  cbv

end CiPipeline
