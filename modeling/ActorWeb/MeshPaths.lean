import ActorWeb.MeshRouting

namespace ActorWeb.Mesh

open List BreadthFirst

def Adjacent (adjacency : Adjacency) (a b : String) : Prop :=
  ∃ neighbors, neighborsOf adjacency a = some neighbors ∧ b ∈ neighbors

def Reaches (adjacency : Adjacency) (a b : String) (hops : Nat) : Prop :=
  ∃ nodes, Walk (Adjacent adjacency) a b nodes ∧ nodes.length = hops

structure IsDistance (adjacency : Adjacency) (a b : String) (d : Nat) : Prop where
  reaches : Reaches adjacency a b d
  least : ∀ hops, Reaches adjacency a b hops → d ≤ hops

/-- A graph of nodes that the adjacency has, each with its neighbours. -/
structure IsGraph (adjacency : Adjacency) (nodes : List String) : Prop where
  own : ∀ node ∈ nodes, adjacency.property node ≠ .inherited
  closed : ∀ a ∈ nodes, ∀ b, Adjacent adjacency a b → b ∈ nodes

/-- What a node of the graph knows: the graph, its neighbours and that all nodes are alive. -/
structure Shares (adjacency : Adjacency) (nodes : List String) (node : String) (view : MeshView) :
    Prop where
  shared : view.adjacency = adjacency
  connected : ∀ n, n ∈ view.connectedNodes ↔ Adjacent adjacency node n
  alive : ∀ n ∈ nodes, isMeshNodeRouteable view.membership n = true

variable {adjacency : Adjacency} {nodes : List String} {a b c target : String}

section Walks

theorem IsGraph.neighbors (h : IsGraph adjacency nodes) (ha : a ∈ nodes) :
    ∃ neighbors, neighborsOf adjacency a = some neighbors := by
  have hown := h.own a ha
  unfold neighborsOf
  cases hproperty : adjacency.property a with
  | own neighbors => exact ⟨neighbors, rfl⟩
  | missing => exact ⟨[], rfl⟩
  | inherited => exact absurd hproperty hown

theorem Reaches.refl (a : String) : Reaches adjacency a a 0 :=
  ⟨[], ⟨isChain_singleton a, rfl⟩, rfl⟩

theorem Reaches.eq_of_zero (h : Reaches adjacency a b 0) : a = b := by
  obtain ⟨nodes, hwalk, hlength⟩ := h
  obtain rfl := length_eq_zero_iff.mp hlength
  exact Option.some.inj hwalk.last

theorem Reaches.step (hedge : Adjacent adjacency a b) {hops : Nat}
    (h : Reaches adjacency b c hops) : Reaches adjacency a c (hops + 1) := by
  obtain ⟨nodes, hwalk, rfl⟩ := h
  refine ⟨b :: nodes, ⟨isChain_cons_cons.mpr ⟨hedge, hwalk.chain⟩, ?_⟩, rfl⟩
  rw [getLast?_cons_cons]
  exact hwalk.last

theorem IsDistance.nearer {d : Nat} {walk : List String}
    (hwalk : Walk (Adjacent adjacency) a target walk) (hlength : walk.length = d) {n : String}
    (hn : n ∈ walk) : ∃ hops < d, Reaches adjacency n target hops := by
  obtain ⟨before, after, rfl⟩ := append_of_mem hn
  rw [length_append, length_cons] at hlength
  exact ⟨after.length, by omega, after, hwalk.suffix, rfl⟩

theorem reaches_mem (hgraph : IsGraph adjacency nodes) (ha : a ∈ nodes) {walk : List String}
    (hwalk : List.IsChain (Adjacent adjacency) (a :: walk)) : ∀ n ∈ walk, n ∈ nodes := by
  induction walk generalizing a with
  | nil => exact fun n hn => absurd hn not_mem_nil
  | cons b walk ih =>
    obtain ⟨hedge, hchain⟩ := isChain_cons_cons.mp hwalk
    have hb := hgraph.closed a ha b hedge
    intro n hn
    obtain rfl | hn := mem_cons.mp hn
    · exact hb
    · exact ih hb hchain n hn

end Walks

section Search

variable {node : String} {view : MeshView} {visited : List String}

theorem findRoutePath_spec (target : String) (view : MeshView) (visited : List String)
    (hgraph : IsGraph adjacency nodes) (hnode : node ∈ nodes) :
    findRoutePath node target view.connectedNodes visited view.membership adjacency =
        some .absent ∨
    ∃ next rest, findRoutePath node target view.connectedNodes visited view.membership adjacency =
        some (.found (node :: next :: rest)) ∧
      next ∉ visited ∧ Walk (Adjacent adjacency) node target (next :: rest) := by
  have hends : (findRoutePath node target view.connectedNodes visited view.membership
      adjacency).isSome := findRoutePath_ends
  obtain ⟨outcome, houtcome⟩ := Option.isSome_iff_exists.mp hends
  obtain ⟨neighbors, hneighbors⟩ : ∃ neighbors, neighborsOf adjacency node = some neighbors :=
    hgraph.neighbors hnode
  have hsearch := houtcome
  rw [findRoutePath, hneighbors] at hsearch
  have hfirst : ∀ n ∈ firstHops view.connectedNodes visited view.membership neighbors,
      Adjacent adjacency node n ∧ n ∉ visited := by
    intro n hn
    obtain ⟨hmem, hentered⟩ := mem_filter.mp hn
    simp only [entered, Bool.and_eq_true, decide_eq_true_eq] at hentered
    exact ⟨⟨neighbors, hneighbors, hmem⟩, hentered.2.1⟩
  have hinvariant := search_invariant (P := fun path => ∃ next rest, path = node :: next :: rest ∧
    next ∉ visited ∧ List.IsChain (Adjacent adjacency) path) ?_ ?_ hsearch
  · rw [houtcome]
    cases outcome with
    | absent => exact .inl rfl
    | found path =>
      obtain ⟨⟨next, rest, rfl, hunvisited, hchain⟩, hlast⟩ := hinvariant.1 path rfl
      exact .inr ⟨next, rest, rfl, hunvisited, hchain, hlast⟩
    | failed =>
      obtain ⟨path, last, ⟨next, rest, rfl, -, hchain⟩, hlast, hnone⟩ := hinvariant.2 rfl
      have hmem : last ∈ nodes :=
        reaches_mem hgraph hnode hchain last (mem_of_getLast? (by
          rwa [getLast?_cons_cons] at hlast))
      obtain ⟨found, hfound⟩ := hgraph.neighbors hmem
      rw [hnone] at hfound
      cases hfound
  · rintro path last n ⟨next, rest, rfl, hunvisited, hchain⟩ hlast ⟨found, hfound, hn, -⟩
    refine ⟨next, rest ++ [n], rfl, hunvisited, ?_⟩
    refine isChain_append.mpr ⟨hchain, isChain_singleton n, fun x hx y hy => ?_⟩
    obtain rfl := Option.some.inj (hlast.symm.trans hx)
    cases hy
    exact ⟨found, hfound, hn⟩
  · intro path hpath
    obtain ⟨n, hn, rfl⟩ := mem_map.mp hpath
    obtain ⟨hedge, hunvisited⟩ := hfirst n hn
    exact ⟨n, [], rfl, hunvisited, isChain_pair.mpr hedge⟩

theorem findRoutePath_shortest (hgraph : IsGraph adjacency nodes) (hnode : node ∈ nodes)
    (hshares : Shares adjacency nodes node view) {first : String} {walk : List String}
    (hwalk : Walk (Adjacent adjacency) node target (first :: walk))
    (hunvisited : ∀ n ∈ first :: walk, n ∉ visited) {outcome : Outcome String}
    (houtcome : findRoutePath node target view.connectedNodes visited view.membership adjacency =
      some outcome) :
    outcome = .failed ∨ ∃ path, outcome = .found path ∧ path.length ≤ walk.length + 2 := by
  have hnodes := reaches_mem hgraph hnode hwalk.chain
  have hentered : ∀ n ∈ first :: walk, entered visited view.membership n = true := fun n hn =>
    Bool.and_eq_true_iff.mpr ⟨decide_eq_true (hunvisited n hn), hshares.alive n (hnodes n hn)⟩
  obtain ⟨⟨neighbors, hneighbors, hfirst⟩, -⟩ := isChain_cons_cons.mp hwalk.chain
  have hfirsts : first ∈ firstHops view.connectedNodes visited view.membership neighbors :=
    mem_filter.mpr ⟨hfirst, Bool.and_eq_true_iff.mpr
      ⟨decide_eq_true ((hshares.connected first).mpr ⟨neighbors, hneighbors, hfirst⟩),
        hentered first mem_cons_self⟩⟩
  have hedges : Walk (Edge (neighborsOf adjacency) (entered visited view.membership)) node target
      (first :: walk) := by
    refine ⟨?_, hwalk.last⟩
    refine hwalk.chain.imp_of_mem_tail_imp fun a b _ hb hab => ?_
    obtain ⟨found, hfound, hmem⟩ := hab
    exact ⟨found, hfound, hmem, hentered b hb⟩
  rw [findRoutePath, hneighbors] at houtcome
  refine search_shortest ⟨?_, ?_⟩ ?_ houtcome
  · refine List.Pairwise.imp_of_mem (fun hp hq _ => ?_) (pairwise_of_forall fun _ _ => trivial)
    obtain ⟨n, -, rfl⟩ := mem_map.mp hp
    obtain ⟨m, -, rfl⟩ := mem_map.mp hq
    exact Nat.le_refl 2
  · intro p hp q hq
    obtain ⟨n, -, rfl⟩ := mem_map.mp hp
    obtain ⟨m, -, rfl⟩ := mem_map.mp hq
    exact Nat.le_succ 2
  · have hmeets : ∃ n ∈ first :: walk,
        n ∈ firstHops view.connectedNodes visited view.membership neighbors :=
      ⟨first, mem_cons_self, hfirsts⟩
    obtain ⟨before, x, after, hcut, hx, hafter⟩ := exists_last hmeets
    have hlength := congrArg List.length hcut
    rw [length_cons, length_append, length_cons] at hlength
    rw [hcut] at hedges hunvisited
    refine ⟨[node, x], mem_map_of_mem hx, x, rfl, after, hedges.suffix, fun n hn hmem => ?_, ?_⟩
    · obtain hmem | hmem := mem_append.mp hmem
      · exact hafter n hn hmem
      · exact hunvisited n (mem_append_right _ (mem_cons_of_mem _ hn)) hmem
    · rw [length_cons, length_singleton]
      omega

end Search

section Hops

variable {option : Option MeshRouteToken} {view : MeshView} {message : Carried}
variable {token : MeshRouteToken}

def MeshView.input (view : MeshView) (node target : String) (token : MeshRouteToken) :
    MeshRouteInput where
  localNode := node
  targetNode := target
  connectedNodes := view.connectedNodes
  membership := view.membership
  adjacency := some view.adjacency
  routeToken := some token
  maxHops := none

theorem forward_eq (htoken : message.token option = some token) :
    forward option target view message =
      match (resolveMeshNextHop (view.input message.node target token)).resolution with
      | .nextHop node routeToken => .arrived ⟨node, .token routeToken, message.route ++ [node]⟩
      | .rejected reason => .rejected reason
      | .diverged => .diverged := by
  obtain ⟨node, routeTokenValue, route⟩ := message
  cases routeTokenValue with
  | undefined =>
    cases htoken
    rfl
  | token routeToken =>
    cases htoken
    rfl
  | malformed => cases htoken

theorem reject {code : MeshRouteFailureCode} {text : String}
    (htoken : message.token option = some token)
    (hresolve : resolveMeshNextHop (view.input message.node target token) =
      .result (.failed code text)) :
    forward option target view message = .rejected (.route code text) := by
  rw [forward_eq htoken, hresolve]
  rfl

theorem forward_exhausted (target : String) (view : MeshView)
    (htoken : message.token option = some token) (hlimit : token.hopLimit ≤ 0) :
    ∃ text, forward option target view message =
      .rejected (.route .hopLimitExhausted text) := by
  have hresolve : ∃ text, resolveMeshNextHop (view.input message.node target token) =
      .result (.failed .hopLimitExhausted text) := ⟨_, if_pos hlimit⟩
  exact hresolve.imp fun _ => reject htoken

theorem arrive {nextHop : String} (htoken : message.token option = some token)
    (hunvisited : nextHop ∉ token.visitedNodes)
    (hresolve : resolveMeshNextHop (view.input message.node target token) =
      .result (advanceRoute nextHop token)) :
    forward option target view message = .arrived ⟨nextHop,
      .token ⟨token.visitedNodes ++ [nextHop], token.hopLimit - 1⟩, message.route ++ [nextHop]⟩ := by
  rw [forward_eq htoken, hresolve, advanceRoute_of_unvisited hunvisited]
  rfl

theorem resolve_alive (node target : String) (view : MeshView) (token : MeshRouteToken)
    (hlimit : 0 < token.hopLimit) (hunvisited : target ∉ token.visitedNodes)
    (halive : isMeshNodeRouteable view.membership target = true) :
    resolveMeshNextHop (view.input node target token) =
      if target ∈ view.connectedNodes then .result (advanceRoute target token)
      else (view.input node target token).routeAlong (findRoutePath node target
        view.connectedNodes token.visitedNodes view.membership view.adjacency) := by
  have htoken : (view.input node target token).token = token := rfl
  have hleft : ¬ token.hopLimit ≤ 0 := by omega
  have hdead : ¬ isMeshNodeRouteable view.membership target = false := by rw [halive]; decide
  unfold resolveMeshNextHop
  simp only [htoken]
  exact (if_neg hleft).trans ((if_neg hunvisited).trans (if_neg hdead))

end Hops

section Journeys

variable {option : Option MeshRouteToken} {maxHops : Int} {d k : Nat} {message : Carried}

/-- A message that took `k` hops of a shortest path of length `d`: the nodes that it has been at
are farther from the target than the node that it is at. -/
structure OnShortestPath (adjacency : Adjacency) (nodes : List String)
    (option : Option MeshRouteToken) (target : String) (maxHops : Int) (d k : Nat)
    (message : Carried) : Prop where
  token : message.token option = some ⟨message.route, maxHops - k⟩
  mem : message.node ∈ nodes
  route : message.node ∈ message.route
  reaches : Reaches adjacency message.node target (d - k)
  farther : ∀ n ∈ message.route, ∀ hops, Reaches adjacency n target hops →
    d - k ≤ hops ∧ (n ≠ message.node → d - k < hops)

theorem OnShortestPath.hop (hgraph : IsGraph adjacency nodes)
    (h : OnShortestPath adjacency nodes option target maxHops d k message) (hk : k < d)
    {nextHop : String} (hedge : Adjacent adjacency message.node nextHop)
    (hreaches : Reaches adjacency nextHop target (d - (k + 1))) :
    OnShortestPath adjacency nodes option target maxHops d (k + 1)
      ⟨nextHop, .token ⟨message.route ++ [nextHop], maxHops - k - 1⟩, message.route ++ [nextHop]⟩ where
  token := by
    have hleft : maxHops - k - 1 = maxHops - ((k + 1 : Nat) : Int) := by omega
    rw [Carried.token, hleft]
  mem := hgraph.closed _ h.mem _ hedge
  route := mem_append_right _ (mem_singleton_self nextHop)
  reaches := hreaches
  farther n hn hops hwalk := by
    obtain hn | hn := mem_append.mp hn
    · have hle := (h.farther n hn hops hwalk).1
      exact ⟨by omega, fun _ => by omega⟩
    · obtain rfl := mem_singleton.mp hn
      have hle := (h.farther _ h.route (hops + 1) (hwalk.step hedge)).1
      exact ⟨by omega, fun hne => absurd rfl hne⟩

theorem OnShortestPath.forward (hgraph : IsGraph adjacency nodes) (htarget : target ∈ nodes)
    (h : OnShortestPath adjacency nodes option target maxHops d k message) (hk : k < d)
    (hlimit : (k : Int) < maxHops) {view : MeshView}
    (hshares : Shares adjacency nodes message.node view) :
    ∃ next, Mesh.forward option target view message = .arrived next ∧
      OnShortestPath adjacency nodes option target maxHops d (k + 1) next := by
  have hunvisited : target ∉ message.route := fun hmem => by
    have hle := (h.farther target hmem 0 (.refl target)).1
    omega
  have hleft : 0 < maxHops - k := by omega
  have hresolve := resolve_alive message.node target view ⟨message.route, maxHops - k⟩ hleft
    hunvisited (hshares.alive target htarget)
  by_cases hconnected : target ∈ view.connectedNodes
  · rw [if_pos hconnected] at hresolve
    have hedge := (hshares.connected target).mp hconnected
    have hone := (h.farther _ h.route 1 (Reaches.step hedge (.refl target))).1
    refine ⟨_, arrive h.token hunvisited hresolve, h.hop hgraph hk hedge ?_⟩
    rw [show d - (k + 1) = 0 by omega]
    exact .refl target
  · rw [if_neg hconnected] at hresolve
    obtain ⟨walk, hwalk, hlength⟩ := h.reaches
    cases walk with
    | nil => exact absurd hlength (by simp only [length_nil]; omega)
    | cons first walk =>
      have hnear : ∀ n ∈ first :: walk, n ∉ message.route := fun n hn hmem => by
        obtain ⟨hops, hlt, hreaches⟩ := IsDistance.nearer hwalk hlength hn
        have hle := (h.farther n hmem hops hreaches).1
        omega
      have hends : (findRoutePath message.node target view.connectedNodes message.route
          view.membership adjacency).isSome := findRoutePath_ends
      obtain ⟨outcome, houtcome⟩ := Option.isSome_iff_exists.mp hends
      have hshort := findRoutePath_shortest hgraph h.mem hshares hwalk hnear houtcome
      obtain habsent | ⟨next, rest, hfound, hnext, hpath⟩ :=
        findRoutePath_spec target view message.route hgraph h.mem
      · rw [habsent] at houtcome
        cases houtcome
        obtain hfailed | ⟨path, hpath, -⟩ := hshort
        · cases hfailed
        · cases hpath
      · rw [hfound] at houtcome
        cases houtcome
        rw [hshares.shared, hfound] at hresolve
        have hrest : rest.length ≤ walk.length := by
          obtain hfailed | ⟨path, heq, hle⟩ := hshort
          · cases hfailed
          · obtain rfl := Outcome.found.inj heq
            simpa using hle
        have hedge := (isChain_cons_cons.mp hpath.chain).1
        have hreaches : Reaches adjacency next target rest.length :=
          ⟨rest, Walk.suffix (show Walk _ _ _ ([] ++ next :: rest) from hpath), rfl⟩
        have hleast := (h.farther _ h.route _ (hreaches.step hedge)).1
        rw [length_cons] at hlength
        refine ⟨_, arrive h.token hnext hresolve, h.hop hgraph hk hedge ?_⟩
        rwa [show d - (k + 1) = rest.length by omega]

variable {views : Nat → String → MeshView} {source : String}

def startToken (source : String) (maxHops : Int) : Option MeshRouteToken :=
  some (createMeshRouteToken source maxHops)

theorem onShortestPath_run (hgraph : IsGraph adjacency nodes) (hsource : source ∈ nodes)
    (htarget : target ∈ nodes)
    (hshares : ∀ n, ∀ node ∈ nodes, Shares adjacency nodes node (views n node))
    (hd : IsDistance adjacency source target d) (hk : k ≤ d) (hlimit : k ≤ maxHops.toNat) :
    ∃ message, journey (startToken source maxHops) views source target k = .arrived message ∧
      OnShortestPath adjacency nodes (startToken source maxHops) target maxHops d k message := by
  induction k with
  | zero =>
    refine ⟨_, rfl, ?_, hsource, mem_singleton_self source, hd.reaches, ?_⟩
    · rw [Int.natCast_zero, Int.sub_zero]
      rfl
    · intro n hn hops hwalk
      obtain rfl := mem_singleton.mp hn
      exact ⟨hd.least hops hwalk, fun hne => absurd rfl hne⟩
  | succ k ih =>
    obtain ⟨message, hmessage, hpath⟩ := ih (by omega) (by omega)
    obtain ⟨next, hnext, hpath'⟩ := hpath.forward hgraph htarget (by omega) (by omega)
      (hshares k message.node hpath.mem)
    exact ⟨next, by rw [journey, hmessage]; exact hnext, hpath'⟩

theorem journey_rejected {reason : Rejection} {n m : Nat} (hle : n ≤ m)
    (h : journey option views source target n = .rejected reason) :
    journey option views source target m = .rejected reason := by
  induction hle with
  | refl => exact h
  | step _ ih => rw [journey, ih]

/-- The message is rejected for its hops or for want of a path, and never gets to the target. -/
def Rejects (option : Option MeshRouteToken) (views : Nat → String → MeshView)
    (source target : String) : Prop :=
  (∃ n code text, journey option views source target n = .rejected (.route code text) ∧
    (code = .hopLimitExhausted ∨ code = .unreachable)) ∧
  ∀ n message, journey option views source target n = .arrived message → message.node ≠ target

theorem rejects_of_attempt {n : Nat} {message : Carried} {code : MeshRouteFailureCode}
    {text : String} (harrived : journey option views source target n = .arrived message)
    (hforward : forward option target (views n message.node) message =
      .rejected (.route code text)) (hcode : code = .hopLimitExhausted ∨ code = .unreachable)
    (hbefore : ∀ m ≤ n, ∀ message, journey option views source target m = .arrived message →
      message.node ≠ target) : Rejects option views source target := by
  have hrejected : journey option views source target (n + 1) = .rejected (.route code text) := by
    rw [journey, harrived]
    exact hforward
  refine ⟨⟨n + 1, code, text, hrejected, hcode⟩, fun m message hmessage => ?_⟩
  by_cases hm : m ≤ n
  · exact hbefore m hm message hmessage
  · rw [journey_rejected (by omega) hrejected] at hmessage
    cases hmessage

/-- In a graph that all nodes share, a message takes exactly as many hops as its target is away,
when the hop limit allows as many, and is rejected when it does not or there is no path. -/
theorem journey_shortest (hgraph : IsGraph adjacency nodes) (hsource : source ∈ nodes)
    (htarget : target ∈ nodes) (hne : source ≠ target)
    (hshares : ∀ n, ∀ node ∈ nodes, Shares adjacency nodes node (views n node)) (maxHops : Int) :
    (∀ d, IsDistance adjacency source target d →
      (d ≤ maxHops →
        (∃ message, journey (startToken source maxHops) views source target d = .arrived message ∧
          message.node = target) ∧
        ∀ k < d, ∃ message, journey (startToken source maxHops) views source target k =
          .arrived message ∧ message.node ≠ target) ∧
      (maxHops < d → Rejects (startToken source maxHops) views source target)) ∧
    ((∀ hops, ¬ Reaches adjacency source target hops) →
      Rejects (startToken source maxHops) views source target) := by
  have haway : ∀ {d k : Nat} {message : Carried}, k < d →
      OnShortestPath adjacency nodes (startToken source maxHops) target maxHops d k message →
        message.node ≠ target := by
    intro d k message hk hpath heq
    have hle := (hpath.farther _ hpath.route 0 (heq ▸ .refl message.node)).1
    omega
  have hrun : ∀ {d k : Nat}, IsDistance adjacency source target d → k ≤ d → k ≤ maxHops.toNat →
      ∃ message, journey (startToken source maxHops) views source target k = .arrived message ∧
        OnShortestPath adjacency nodes (startToken source maxHops) target maxHops d k message :=
    fun hd hk hlimit => onShortestPath_run hgraph hsource htarget hshares hd hk hlimit
  refine ⟨fun d hd => ⟨fun hle => ⟨?_, fun k hk => ?_⟩, fun hlt => ?_⟩, fun hnone => ?_⟩
  · obtain ⟨message, hmessage, hpath⟩ := hrun hd (Nat.le_refl d) (by omega)
    have hreaches := hpath.reaches
    rw [Nat.sub_self] at hreaches
    exact ⟨message, hmessage, hreaches.eq_of_zero⟩
  · obtain ⟨message, hmessage, hpath⟩ := hrun hd hk.le (by omega)
    exact ⟨message, hmessage, haway hk hpath⟩
  · have hpositive : 0 < d := Nat.pos_of_ne_zero fun hzero => by
      have hreaches := hd.reaches
      rw [hzero] at hreaches
      exact hne hreaches.eq_of_zero
    obtain ⟨message, hmessage, hpath⟩ := hrun hd (by omega) (Nat.le_refl maxHops.toNat)
    have hleft : maxHops - maxHops.toNat ≤ 0 := by omega
    obtain ⟨text, hforward⟩ := forward_exhausted target (views maxHops.toNat message.node)
      hpath.token hleft
    refine rejects_of_attempt hmessage hforward (.inl rfl) fun k hk other hother => ?_
    obtain ⟨message', hmessage', hpath'⟩ := hrun hd (by omega) hk
    obtain rfl := Journey.arrived.inj (hother.symm.trans hmessage')
    exact haway (by omega) hpath'
  · have hfirst : ∀ m ≤ 0, ∀ message, journey (startToken source maxHops) views source target m =
        .arrived message → message.node ≠ target := by
      intro m hm message hmessage
      obtain rfl := Nat.le_zero.mp hm
      obtain rfl := Journey.arrived.inj hmessage
      exact hne
    have htoken : Carried.token (startToken source maxHops) ⟨source, .undefined, [source]⟩ =
        some ⟨[source], maxHops⟩ := rfl
    by_cases hleft : maxHops ≤ 0
    · obtain ⟨text, hforward⟩ := forward_exhausted target (views 0 source) htoken hleft
      exact rejects_of_attempt (n := 0) rfl hforward (.inl rfl) hfirst
    · have hview := hshares 0 source hsource
      have hunvisited : target ∉ [source] := fun hmem => hne (mem_singleton.mp hmem).symm
      have hresolve := resolve_alive source target (views 0 source) ⟨[source], maxHops⟩
        (by change 0 < maxHops; omega) hunvisited (hview.alive target htarget)
      have hnot : target ∉ (views 0 source).connectedNodes := fun hmem =>
        hnone 1 (Reaches.step ((hview.connected target).mp hmem) (.refl target))
      rw [if_neg hnot, hview.shared] at hresolve
      obtain habsent | ⟨next, rest, -, -, hwalk⟩ :=
        findRoutePath_spec target (views 0 source) [source] hgraph hsource
      · rw [habsent] at hresolve
        exact rejects_of_attempt (n := 0) rfl (reject htoken hresolve) (.inr rfl) hfirst
      · exact absurd ⟨next :: rest, hwalk, rfl⟩ (hnone (rest.length + 1))

def relayAdjacency : Adjacency :=
  ((OrderedMap.empty.set "node-a" ["node-relay"]).set "node-relay" ["node-a", "node-b"]).set
    "node-b" ["node-relay"]

def relayNodes : List String := ["node-a", "node-relay", "node-b"]

def relayView (node : String) : MeshView where
  membership := createMeshMembershipState decimal (relayNodes.map fun node => aliveRecord node 1)
  adjacency := relayAdjacency
  connectedNodes := (neighborsOf relayAdjacency node).getD []

theorem adjacent_relay {a b : String} : Adjacent relayAdjacency a b ↔
    b ∈ (neighborsOf relayAdjacency a).getD [] := by
  unfold Adjacent
  cases neighborsOf relayAdjacency a with
  | none => simp
  | some neighbors => simp

theorem isGraph_relay : IsGraph relayAdjacency relayNodes where
  own := by decide +kernel
  closed a ha b hab := by
    have hclosed : ∀ a ∈ relayNodes, ∀ b ∈ (neighborsOf relayAdjacency a).getD [],
        b ∈ relayNodes := by decide +kernel
    exact hclosed a ha b (adjacent_relay.mp hab)

theorem shares_relay (node : String) : Shares relayAdjacency relayNodes node (relayView node) where
  shared := rfl
  connected _ := adjacent_relay.symm
  alive := by
    change ∀ n ∈ relayNodes, isMeshNodeRouteable (relayView "").membership n = true
    decide +kernel

theorem isDistance_relay : IsDistance relayAdjacency "node-a" "node-b" 2 where
  reaches := (Reaches.refl "node-b").step (adjacent_relay.mpr (by decide +kernel)) |>.step
    (adjacent_relay.mpr (by decide +kernel : "node-relay" ∈ _))
  least hops hreaches := by
    obtain ⟨nodes, hwalk, rfl⟩ := hreaches
    cases nodes with
    | nil => exact absurd (Option.some.inj hwalk.last) (by decide)
    | cons n nodes =>
      cases nodes with
      | nil =>
        obtain rfl := Option.some.inj hwalk.last
        have hedge := adjacent_relay.mp (isChain_cons_cons.mp hwalk.chain).1
        exact absurd hedge (by decide +kernel)
      | cons _ rest => exact Nat.le_add_left 2 rest.length

theorem journey_shortest_relay : ∃ message,
    journey (startToken "node-a" 2) (fun _ => relayView) "node-a" "node-b" 2 = .arrived message ∧
      message.node = "node-b" :=
  (((journey_shortest isGraph_relay (by decide) (by decide) (by decide)
    (fun _ node _ => shares_relay node) 2).1 2 isDistance_relay).1 (by decide)).1

end Journeys

end ActorWeb.Mesh
