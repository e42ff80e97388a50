import ActorWeb.BreadthFirst
import ActorWeb.MeshMembership

namespace ActorWeb.Mesh

open List BreadthFirst

structure MeshRouteToken where
  visitedNodes : List String
  hopLimit : Int

inductive MeshRouteFailureCode
  | hopLimitExhausted | routeLoop | unsafeNode | unreachable

inductive MeshRouteResult
  | ok (nextHop : String) (routeToken : MeshRouteToken)
  | failed (code : MeshRouteFailureCode) (message : String)

abbrev Adjacency := OrderedMap String (List String)

structure MeshRouteInput where
  (localNode targetNode : String)
  connectedNodes : List String
  membership : MeshMembershipState
  adjacency : Option Adjacency
  routeToken : Option MeshRouteToken
  maxHops : Option Int

/-- How an attempt to route ends: reading what is no list of nodes throws. `diverged` stands for a
search that does not end. -/
inductive RouteAttempt
  | result (route : MeshRouteResult)
  | threw
  | diverged

def createMeshRouteToken (localNode : String) (maxHops : Int) : MeshRouteToken where
  visitedNodes := [localNode]
  hopLimit := maxHops

def failRoute (code : MeshRouteFailureCode) (message : String) : MeshRouteResult :=
  .failed code message

/-- `adjacency[node] ?? []`, to be iterated: an inherited value is not iterable. -/
def neighborsOf (adjacency : Adjacency) (node : String) : Option (List String) :=
  match adjacency.property node with
  | .own neighbors => some neighbors
  | .missing => some []
  | .inherited => none

def entered (visited : List String) (membership : MeshMembershipState) (neighbor : String) : Bool :=
  neighbor ∉ visited && isMeshNodeRouteable membership neighbor

def firstHops (connected visited : List String) (membership : MeshMembershipState)
    (neighbors : List String) : List String :=
  neighbors.filter fun neighbor => neighbor ∈ connected && entered visited membership neighbor

def findRoutePath (localNode targetNode : String) (connected visited : List String)
    (membership : MeshMembershipState) (adjacency : Adjacency) : Option (Outcome String) :=
  match neighborsOf adjacency localNode with
  | none => some .failed
  | some neighbors =>
    search (neighborsOf adjacency) (entered visited membership) targetNode
      (neighbors.length + adjacency.values.flatten.length)
      ((firstHops connected visited membership neighbors).map fun n => [localNode, n])
      (firstHops connected visited membership neighbors ++ visited)

def advanceRoute (nextHop : String) (token : MeshRouteToken) : MeshRouteResult :=
  if nextHop ∈ token.visitedNodes then
    failRoute .routeLoop ("Mesh route would revisit " ++ nextHop ++ ".")
  else .ok nextHop ⟨token.visitedNodes ++ [nextHop], token.hopLimit - 1⟩

variable (input : MeshRouteInput)

/-- `input.routeToken ?? createMeshRouteToken(input.localNode, input.maxHops ?? 16)`. -/
def MeshRouteInput.token : MeshRouteToken :=
  input.routeToken.getD (createMeshRouteToken input.localNode (input.maxHops.getD 16))

def MeshRouteInput.routeAlong : Option (Outcome String) → RouteAttempt
  | none => .diverged
  | some .failed => .threw
  | some .absent =>
    .result (failRoute .unreachable ("Mesh target node " ++ input.targetNode ++
      " has no safe next hop from " ++ input.localNode ++ "."))
  | some (.found path) => .result (advanceRoute (path.getD 1 "") input.token)

def resolveMeshNextHop : RouteAttempt :=
  let token := input.token
  if token.hopLimit ≤ 0 then
    .result (failRoute .hopLimitExhausted ("Mesh route from " ++ input.localNode ++ " to " ++
      input.targetNode ++ " exhausted its hop limit."))
  else if input.targetNode ∈ token.visitedNodes then
    .result (failRoute .routeLoop ("Mesh route from " ++ input.localNode ++ " to " ++
      input.targetNode ++ " would revisit " ++ input.targetNode ++ "."))
  else if isMeshNodeRouteable input.membership input.targetNode = false then
    .result (failRoute .unsafeNode ("Mesh target node " ++ input.targetNode ++
      " is not routeable."))
  else if input.targetNode ∈ input.connectedNodes then
    .result (advanceRoute input.targetNode token)
  else
    input.routeAlong (findRoutePath input.localNode input.targetNode input.connectedNodes
      token.visitedNodes input.membership (input.adjacency.getD .empty))

structure LabsMesh where
  localNode : String
  membership : MeshMembershipState
  adjacencyMap : Adjacency

def LabsMesh.resolveNextHop (mesh : LabsMesh) (targetNode : String) (connectedNodes : List String)
    (routeToken : Option MeshRouteToken) : RouteAttempt :=
  resolveMeshNextHop
    { localNode := mesh.localNode
      targetNode
      connectedNodes
      membership := mesh.membership
      adjacency := some mesh.adjacencyMap
      routeToken
      maxHops := none }

inductive RouteTokenValue
  | undefined
  | malformed
  | token (routeToken : MeshRouteToken)

inductive Rejection
  | malformedToken
  | route (code : MeshRouteFailureCode) (message : String)
  | threw

inductive Resolution
  | nextHop (node : String) (routeToken : MeshRouteToken)
  | rejected (reason : Rejection)
  | diverged

def RouteAttempt.resolution : RouteAttempt → Resolution
  | .result (.ok nextHop routeToken) => .nextHop nextHop routeToken
  | .result (.failed code message) => .rejected (.route code message)
  | .threw => .rejected .threw
  | .diverged => .diverged

/-- The `resolveNextHop` of `createMeshRemoteMessageRouter`, with the token of its options. -/
def routerResolveNextHop (mesh : LabsMesh) (option : Option MeshRouteToken) (location : String)
    (connectedNodes : List String) : RouteTokenValue → Resolution
  | .malformed => .rejected .malformedToken
  | .undefined => (mesh.resolveNextHop location connectedNodes option).resolution
  | .token routeToken => (mesh.resolveNextHop location connectedNodes routeToken).resolution

section Journeys

structure MeshView where
  membership : MeshMembershipState
  adjacency : Adjacency
  connectedNodes : List String

structure Carried where
  node : String
  routeToken : RouteTokenValue
  route : List String

inductive Journey
  | arrived (message : Carried)
  | rejected (reason : Rejection)
  | diverged

def forward (option : Option MeshRouteToken) (target : String) (view : MeshView)
    (message : Carried) : Journey :=
  match routerResolveNextHop ⟨message.node, view.membership, view.adjacency⟩ option target
    view.connectedNodes message.routeToken with
  | .nextHop node routeToken => .arrived ⟨node, .token routeToken, message.route ++ [node]⟩
  | .rejected reason => .rejected reason
  | .diverged => .diverged

/-- A message after a number of attempts to forward it, where `views` is what each node knows at
each attempt, and `option` the route token of the options of the routers. -/
def journey (option : Option MeshRouteToken) (views : Nat → String → MeshView)
    (source target : String) : Nat → Journey
  | 0 => .arrived ⟨source, .undefined, [source]⟩
  | n + 1 =>
    match journey option views source target n with
    | .arrived message => forward option target (views n message.node) message
    | journey => journey

end Journeys

section Search

variable {localNode targetNode : String} {connected visited : List String}
variable {membership : MeshMembershipState} {adjacency : Adjacency}

theorem neighborsOf_mem {node : String} {neighbors : List String}
    (h : neighborsOf adjacency node = some neighbors) :
    ∀ n ∈ neighbors, n ∈ adjacency.values.flatten := by
  intro n hn
  unfold neighborsOf OrderedMap.property at h
  cases hget : adjacency.get node with
  | some own =>
    rw [hget] at h
    obtain rfl := Option.some.inj h
    exact mem_flatten.mpr ⟨own, OrderedMap.mem_values_iff.mpr ⟨node, hget⟩, hn⟩
  | none =>
    rw [hget] at h
    by_cases hinherited : node ∈ objectPrototype
    · simp only [if_pos hinherited] at h
      cases h
    · simp only [if_neg hinherited] at h
      cases h
      exact absurd hn not_mem_nil

theorem findRoutePath_ends : (findRoutePath localNode targetNode connected visited membership
    adjacency).isSome := by
  unfold findRoutePath
  split
  case h_1 => rfl
  case h_2 neighbors _ =>
    refine search_ends (fun _ _ => neighborsOf_mem) ?_
    have hfirst : (firstHops connected visited membership neighbors).length ≤ neighbors.length :=
      length_filter_le _ _
    have hunseen : (unseen adjacency.values.flatten
        (firstHops connected visited membership neighbors ++ visited)).length ≤
          adjacency.values.flatten.length :=
      (length_filter_le _ _).trans (dedup_sublist _).length_le
    rw [length_map]
    omega

theorem second_of_findRoutePath {path : List String} (h : findRoutePath localNode targetNode
      connected visited membership adjacency = some (.found path)) :
    path.getD 1 "" ∈ connected ∧ path.getD 1 "" ∉ visited ∧
      isMeshNodeRouteable membership (path.getD 1 "") = true := by
  unfold findRoutePath at h
  split at h
  case h_1 => cases h
  case h_2 neighbors _ =>
    have hpath := ((search_invariant (P := fun path => ∃ first rest, path = localNode :: first :: rest ∧
      first ∈ firstHops connected visited membership neighbors) ?_ ?_ h).1 path rfl).1
    · obtain ⟨first, rest, rfl, hfirst⟩ := hpath
      obtain ⟨-, hmem⟩ := mem_filter.mp hfirst
      simp only [entered, Bool.and_eq_true, decide_eq_true_eq] at hmem
      exact ⟨hmem.1, hmem.2.1, hmem.2.2⟩
    · rintro path node n ⟨first, rest, rfl, hfirst⟩ - -
      exact ⟨first, rest ++ [n], rfl, hfirst⟩
    · intro path hpath
      obtain ⟨n, hn, rfl⟩ := mem_map.mp hpath
      exact ⟨n, [], rfl, hn⟩

end Search

section Hops

structure SafeHop (view : MeshView) (token : MeshRouteToken) (nextHop : String)
    (routeToken : MeshRouteToken) : Prop where
  positive : 0 < token.hopLimit
  connected : nextHop ∈ view.connectedNodes
  alive : isMeshNodeRouteable view.membership nextHop = true
  unvisited : nextHop ∉ token.visitedNodes
  routeToken : routeToken = ⟨token.visitedNodes ++ [nextHop], token.hopLimit - 1⟩

theorem advanceRoute_of_unvisited {nextHop : String} {token : MeshRouteToken}
    (h : nextHop ∉ token.visitedNodes) : advanceRoute nextHop token =
      .ok nextHop ⟨token.visitedNodes ++ [nextHop], token.hopLimit - 1⟩ := if_neg h

theorem resolveNextHop_cases (node target : String) (view : MeshView)
    (routeToken : Option MeshRouteToken) :
    let token := routeToken.getD (createMeshRouteToken node 16)
    (∃ nextHop next, LabsMesh.resolveNextHop ⟨node, view.membership, view.adjacency⟩ target
        view.connectedNodes routeToken = .result (.ok nextHop next) ∧
        SafeHop view token nextHop next) ∨
    (∃ code message, LabsMesh.resolveNextHop ⟨node, view.membership, view.adjacency⟩ target
        view.connectedNodes routeToken = .result (.failed code message)) ∨
    LabsMesh.resolveNextHop ⟨node, view.membership, view.adjacency⟩ target view.connectedNodes
      routeToken = .threw := by
  intro token
  have htoken : MeshRouteInput.token ⟨node, target, view.connectedNodes, view.membership,
      some view.adjacency, routeToken, none⟩ = token := rfl
  unfold LabsMesh.resolveNextHop resolveMeshNextHop
  simp only [htoken, Option.getD_some]
  split
  case isTrue => exact .inr (.inl ⟨_, _, rfl⟩)
  case isFalse hpositive =>
    split
    case isTrue => exact .inr (.inl ⟨_, _, rfl⟩)
    case isFalse hvisited =>
      split
      case isTrue => exact .inr (.inl ⟨_, _, rfl⟩)
      case isFalse halive =>
        split
        case isTrue hconnected =>
          rw [advanceRoute_of_unvisited hvisited]
          exact .inl ⟨_, _, rfl, by omega, hconnected, Bool.eq_true_of_not_eq_false halive, hvisited,
            rfl⟩
        case isFalse =>
          have hends : (findRoutePath node target view.connectedNodes token.visitedNodes
              view.membership view.adjacency).isSome := findRoutePath_ends
          obtain ⟨outcome, houtcome⟩ := Option.isSome_iff_exists.mp hends
          rw [houtcome]
          cases outcome with
          | failed => exact .inr (.inr rfl)
          | absent => exact .inr (.inl ⟨_, _, rfl⟩)
          | found path =>
            obtain ⟨hconnected, hunvisited, hrouteable⟩ := second_of_findRoutePath houtcome
            rw [MeshRouteInput.routeAlong, htoken, advanceRoute_of_unvisited hunvisited]
            exact .inl ⟨_, _, rfl, by omega, hconnected, hrouteable, hunvisited, rfl⟩

def Carried.token (option : Option MeshRouteToken) (message : Carried) : Option MeshRouteToken :=
  match message.routeToken with
  | .undefined => some (option.getD (createMeshRouteToken message.node 16))
  | .malformed => none
  | .token routeToken => some routeToken

theorem forward_cases (option : Option MeshRouteToken) (target : String) (view : MeshView)
    (message : Carried) : (∃ nextHop token routeToken, message.token option = some token ∧
      SafeHop view token nextHop routeToken ∧ forward option target view message =
        .arrived ⟨nextHop, .token routeToken, message.route ++ [nextHop]⟩) ∨
    ∃ reason, forward option target view message = .rejected reason := by
  have hresolve : ∀ routeToken : Option MeshRouteToken,
      message.token option = some (routeToken.getD (createMeshRouteToken message.node 16)) →
      routerResolveNextHop ⟨message.node, view.membership, view.adjacency⟩ option target
          view.connectedNodes message.routeToken =
        (LabsMesh.resolveNextHop ⟨message.node, view.membership, view.adjacency⟩ target
          view.connectedNodes routeToken).resolution →
      (∃ nextHop token routeToken, message.token option = some token ∧
        SafeHop view token nextHop routeToken ∧ forward option target view message =
          .arrived ⟨nextHop, .token routeToken, message.route ++ [nextHop]⟩) ∨
      ∃ reason, forward option target view message = .rejected reason := by
    intro routeToken htoken hrouter
    unfold forward
    rw [hrouter]
    obtain ⟨nextHop, next, heq, hsafe⟩ | ⟨code, text, heq⟩ | heq :=
      resolveNextHop_cases message.node target view routeToken
    · rw [heq]
      exact .inl ⟨nextHop, _, next, htoken, hsafe, rfl⟩
    · rw [heq]
      exact .inr ⟨_, rfl⟩
    · rw [heq]
      exact .inr ⟨_, rfl⟩
  obtain ⟨node, routeTokenValue, route⟩ := message
  cases routeTokenValue with
  | undefined => exact hresolve option rfl rfl
  | token routeToken => exact hresolve (some routeToken) rfl rfl
  | malformed => exact .inr ⟨.malformedToken, rfl⟩

end Hops

section Loops

variable (views : Nat → String → MeshView) (source target : String)

/-- A message after `n` hops without a token of the router: it carries its route and what is left
of the hop limit. -/
structure OnRoute (n : Nat) (message : Carried) : Prop where
  token : message.token none = some ⟨message.route, 16 - n⟩
  nodup : message.route.Nodup
  length : message.route.length = n + 1
  last : message.route.getLast? = some message.node
  bound : n ≤ 16

theorem onRoute_source : OnRoute 0 ⟨source, .undefined, [source]⟩ where
  token := rfl
  nodup := nodup_singleton source
  length := rfl
  last := rfl
  bound := Nat.zero_le 16

variable {views source target} in
theorem OnRoute.hop {n : Nat} {message : Carried} (h : OnRoute n message) {view : MeshView}
    {token routeToken : MeshRouteToken} {nextHop : String}
    (htoken : message.token none = some token) (hsafe : SafeHop view token nextHop routeToken) :
    OnRoute (n + 1) ⟨nextHop, .token routeToken, message.route ++ [nextHop]⟩ := by
  obtain rfl := Option.some.inj (htoken.symm.trans h.token)
  have hpositive : 0 < (16 : Int) - n := hsafe.positive
  refine ⟨?_, ?_, ?_, getLast?_concat, by omega⟩
  · have hleft : (16 : Int) - n - 1 = 16 - ((n + 1 : Nat) : Int) := by omega
    rw [Carried.token, hsafe.routeToken, ← hleft]
  · exact nodup_append.mpr ⟨h.nodup, nodup_singleton _, fun a ha b hb hab =>
      hsafe.unvisited (mem_singleton.mp hb ▸ hab ▸ ha)⟩
  · rw [length_append, h.length, length_singleton]

theorem journey_cases (n : Nat) :
    (∃ message, journey none views source target n = .arrived message ∧ OnRoute n message) ∨
    ∃ reason, journey none views source target n = .rejected reason := by
  induction n with
  | zero => exact .inl ⟨_, rfl, onRoute_source source⟩
  | succ n ih =>
    obtain ⟨message, heq, hroute⟩ | ⟨reason, heq⟩ := ih
    · rw [journey, heq]
      obtain ⟨nextHop, token, routeToken, htoken, hsafe, hforward⟩ | ⟨reason, hforward⟩ :=
        forward_cases none target (views n message.node) message
      · exact .inl ⟨_, hforward, hroute.hop htoken hsafe⟩
      · exact .inr ⟨reason, hforward⟩
    · exact .inr ⟨reason, by rw [journey, heq]⟩

/-- Without a route token at the start, and whatever each node knows at each attempt, a message
visits no node twice and takes at most 16 hops, every hop goes to a connected node that is alive
for the node that forwards, and what yields no hop rejects. -/
theorem journey_loop_free (n : Nat) :
    ((∃ message, journey none views source target n = .arrived message ∧
        message.route.Nodup ∧ message.route.length = n + 1 ∧
        message.route.getLast? = some message.node ∧ n ≤ 16) ∨
      ∃ reason, journey none views source target n = .rejected reason) ∧
    ∀ message next, journey none views source target n = .arrived message →
      journey none views source target (n + 1) = .arrived next →
        next.route = message.route ++ [next.node] ∧
        next.node ∈ (views n message.node).connectedNodes ∧
        isMeshNodeRouteable (views n message.node).membership next.node = true := by
  refine ⟨?_, fun message next hmessage hnext => ?_⟩
  · obtain ⟨message, heq, hroute⟩ | hrejected := journey_cases views source target n
    · exact .inl ⟨message, heq, hroute.nodup, hroute.length, hroute.last, hroute.bound⟩
    · exact .inr hrejected
  · rw [journey, hmessage] at hnext
    obtain ⟨nextHop, token, routeToken, -, hsafe, hforward⟩ | ⟨reason, hforward⟩ :=
      forward_cases none target (views n message.node) message
    · obtain rfl := Journey.arrived.inj (hforward.symm.trans hnext)
      exact ⟨rfl, hsafe.connected, hsafe.alive⟩
    · cases hforward.symm.trans hnext

end Loops

end ActorWeb.Mesh
