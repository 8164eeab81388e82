/-
Places in a syntax tree.

* `Node.ind`: the induction principle of trees: a property holds of every tree
  once it is inherited from the children;
* `Node.at?`, `Node.along`: the node that child numbers lead to, from the root
  down, and the nodes that they lead through;
* `Site`: a node together with the way to it and the nodes it stands in;
* `Node.sites`: the sites of a tree, each before those below it.
  `map_node_sites` says that they run through all nodes, `at?_of_mem_sites`
  that the way of a site leads to its node through the nodes it stands in, and
  `nodup_way_sites` that no two sites have the same way.
-/
import Mathlib.Tactic
import ConsoleStrip.Tree.Node

namespace ConsoleStrip

namespace Node

/-! ### Induction over trees -/

/-- The induction principle of the nested inductive: a property holds of every
tree once it is inherited from the children. -/
@[elab_as_elim]
theorem ind {P : Node → Prop} (habsent : P .absent)
    (hnode : ∀ r k s ks, (∀ c ∈ ks, P c) → P (.node r k s ks)) : ∀ n : Node, P n
  | .absent => habsent
  | .node r k s ks => hnode r k s ks fun c _ => ind habsent hnode c

/-! ### Ways -/

/-- The node to which child numbers lead. -/
def at? (n : Node) : List Nat → Option Node
  | [] => some n
  | i :: way => n.kids[i]?.bind (·.at? way)

/-- The nodes that child numbers lead through, the last one not among them. -/
def along (n : Node) : List Nat → List Node
  | [] => []
  | i :: way => n :: (n.kids[i]?.elim [] (·.along way))

end Node

/-- A node in a tree: the child numbers that lead to it from the root, the
nodes that it stands in, the innermost first, and the node itself. -/
structure Site where
  way : List Nat
  above : List Node
  node : Node

namespace Node

mutual

/-- The sites of a tree that itself stands somewhere. -/
def sitesFrom (way : List Nat) (above : List Node) : Node → List Site
  | absent => []
  | node r k s ks => ⟨way, above, node r k s ks⟩ :: sitesOf way (node r k s ks :: above) 0 ks

/-- The sites of some children, from the child with number `i` on. -/
def sitesOf (way : List Nat) (above : List Node) (i : Nat) : List Node → List Site
  | [] => []
  | n :: ns => sitesFrom (way ++ [i]) above n ++ sitesOf way above (i + 1) ns

end

/-- The sites of a tree, each before those below it. -/
def sites (m : Node) : List Site := m.sitesFrom [] []

/-! ### All nodes, each once -/

lemma map_node_sitesFrom (n : Node) :
    ∀ way above, (n.sitesFrom way above).map (·.node) = n.preorder := by
  induction n using ind with
  | habsent => simp [sitesFrom, preorder]
  | hnode r k s ks ih =>
      -- the children, from any number on
      have key : ∀ ks : List Node, (∀ c ∈ ks, ∀ way above,
          (c.sitesFrom way above).map (·.node) = c.preorder) → ∀ way above i,
          (sitesOf way above i ks).map (·.node) = preorderList ks := by
        intro ks
        induction ks with
        | nil => simp [sitesOf, preorderList]
        | cons c cs ihcs =>
            intro hall way above i
            rw [sitesOf, preorderList, List.map_append, hall c (by simp),
              ihcs (fun d hd => hall d (by simp [hd]))]
      intro way above
      rw [sitesFrom, preorder, List.map_cons, key ks ih]

/-- The sites of a tree run through all its nodes, in their order. -/
lemma map_node_sites (m : Node) : m.sites.map (·.node) = m.preorder :=
  m.map_node_sitesFrom [] []

/-- A site below a node that stands at `way` in `above`: its way continues that
of the node, leads from the node to the site, and passes the nodes that the
site stands in besides. -/
def LeadsFrom (n : Node) (way : List Nat) (above : List Node) (s : Site) : Prop :=
  ∃ rest, s.way = way ++ rest ∧ n.at? rest = some s.node
    ∧ s.above = (n.along rest).reverse ++ above

/-- A site below one of some children is reached through that child. -/
lemma leadsFrom_of_mem_sitesOf {ks : List Node} {way : List Nat} {above : List Node}
    (hall : ∀ c ∈ ks, ∀ way, ∀ s ∈ c.sitesFrom way above, c.LeadsFrom way above s) :
    ∀ i, ∀ s ∈ sitesOf way above i ks,
      ∃ j, ∃ c : Node, ks[j]? = some c ∧ c.LeadsFrom (way ++ [i + j]) above s := by
  induction ks with
  | nil => simp [sitesOf]
  | cons c cs ih =>
      intro i s hs
      rw [sitesOf, List.mem_append] at hs
      rcases hs with hs | hs
      · exact ⟨0, c, rfl, hall c (by simp) _ s hs⟩
      · obtain ⟨j, d, hd, hlead⟩ := ih (fun d hd => hall d (by simp [hd])) (i + 1) s hs
        exact ⟨j + 1, d, hd, by rwa [show i + (j + 1) = i + 1 + j from by omega]⟩

lemma leadsFrom_of_mem_sitesFrom (n : Node) :
    ∀ above way, ∀ s ∈ n.sitesFrom way above, n.LeadsFrom way above s := by
  induction n using ind with
  | habsent => simp [sitesFrom]
  | hnode r k sp ks ih =>
      intro above way s hs
      rw [sitesFrom, List.mem_cons] at hs
      rcases hs with rfl | hs
      · exact ⟨[], by simp, rfl, by simp [along]⟩
      · obtain ⟨j, c, hc, rest, hway, hat, habove⟩ :=
          leadsFrom_of_mem_sitesOf (fun c hc => ih c hc _) 0 s hs
        refine ⟨j :: rest, by simp [hway], ?_, ?_⟩
        · simp [at?, kids, hc, hat]
        · simp [along, kids, hc, habove]

/-- The way of a site leads to its node, through the nodes it stands in. -/
lemma at?_of_mem_sites {m : Node} {s : Site} (h : s ∈ m.sites) :
    m.at? s.way = some s.node ∧ s.above = (m.along s.way).reverse := by
  obtain ⟨rest, hway, hat, habove⟩ := m.leadsFrom_of_mem_sitesFrom [] [] s h
  rw [hway]
  exact ⟨hat, by simpa using habove⟩

/-- A site below some children stands in all that the children stand in. -/
lemma above_of_mem_sitesOf {ks : List Node} {way : List Nat} {above : List Node} {i : Nat}
    {s : Site} (h : s ∈ sitesOf way above i ks) : above <:+ s.above := by
  obtain ⟨-, c, -, rest, -, -, habove⟩ :=
    leadsFrom_of_mem_sitesOf (fun c _ => c.leadsFrom_of_mem_sitesFrom above) i s h
  exact ⟨_, habove.symm⟩

/-- The sites below a site of a tree are sites of the tree. -/
lemma sitesFrom_subset {s : Site} (n : Node) : ∀ way above, s ∈ n.sitesFrom way above →
    s.node.sitesFrom s.way s.above ⊆ n.sitesFrom way above := by
  induction n using ind with
  | habsent => simp [sitesFrom]
  | hnode r k sp ks ih =>
      -- the children, from any number on
      have key : ∀ ks : List Node, (∀ c ∈ ks, ∀ way above, s ∈ c.sitesFrom way above →
          s.node.sitesFrom s.way s.above ⊆ c.sitesFrom way above) → ∀ way above i,
          s ∈ sitesOf way above i ks → s.node.sitesFrom s.way s.above ⊆ sitesOf way above i ks := by
        intro ks
        induction ks with
        | nil => simp [sitesOf]
        | cons c cs ihcs =>
            intro hall way above i hs
            rw [sitesOf, List.mem_append] at hs
            rw [sitesOf]
            rcases hs with hs | hs
            · exact List.subset_append_of_subset_left _ (hall c (by simp) _ _ hs)
            · exact List.subset_append_of_subset_right _
                (ihcs (fun d hd => hall d (by simp [hd])) _ _ _ hs)
      intro way above hs
      rw [sitesFrom, List.mem_cons] at hs
      rcases hs with rfl | hs
      · exact fun _ h => h
      · rw [sitesFrom]
        exact List.subset_cons_of_subset _ (key ks ih way _ 0 hs)

/-- No two sites below some children have the same way, if none below each of
them have. -/
lemma nodup_way_sitesOf {ks : List Node} {way : List Nat} {above : List Node}
    (hall : ∀ c ∈ ks, ∀ way, ((c.sitesFrom way above).map (·.way)).Nodup) :
    ∀ i, ((sitesOf way above i ks).map (·.way)).Nodup := by
  induction ks with
  | nil => simp [sitesOf]
  | cons c cs ih =>
      intro i
      rw [sitesOf, List.map_append]
      refine (hall c (by simp) _).append (ih (fun d hd => hall d (by simp [hd])) (i + 1)) ?_
      -- a way through this child and a way through a later one part here
      intro w hw hw'
      obtain ⟨s, hs, rfl⟩ := List.mem_map.mp hw
      obtain ⟨t, ht, heq⟩ := List.mem_map.mp hw'
      obtain ⟨rest, hway, -⟩ := c.leadsFrom_of_mem_sitesFrom _ _ s hs
      obtain ⟨j, d, -, rest', hway', -⟩ :=
        leadsFrom_of_mem_sitesOf (fun d _ => d.leadsFrom_of_mem_sitesFrom above) (i + 1) t ht
      rw [hway, hway'] at heq
      simp only [List.append_assoc, List.singleton_append, List.append_cancel_left_eq,
        List.cons.injEq] at heq
      omega

lemma nodup_way_sitesFrom (n : Node) :
    ∀ above way, ((n.sitesFrom way above).map (·.way)).Nodup := by
  induction n using ind with
  | habsent => simp [sitesFrom]
  | hnode r k sp ks ih =>
      intro above way
      rw [sitesFrom, List.map_cons, List.nodup_cons]
      refine ⟨?_, nodup_way_sitesOf (fun c hc => ih c hc _) 0⟩
      -- the ways below the node are longer than its own
      intro hmem
      obtain ⟨s, hs, heq⟩ := List.mem_map.mp hmem
      obtain ⟨j, c, -, rest, hway, -⟩ :=
        leadsFrom_of_mem_sitesOf (fun c _ => c.leadsFrom_of_mem_sitesFrom _) 0 s hs
      rw [hway] at heq
      simp at heq

/-- No two sites of a tree have the same way. -/
lemma nodup_way_sites (m : Node) : (m.sites.map (·.way)).Nodup :=
  m.nodup_way_sitesFrom [] []

end Node

end ConsoleStrip
