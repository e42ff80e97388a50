import ActorWeb.WebNode

namespace ActorWeb.WebNode

open Option hiding mem_map_of_mem

open List Transition

section Held

def ReleaseOp.held : ReleaseOp → List Lease
  | .closeServer l | .teardown l | .unsubscribe l => [l]
  | _ => []

def Call.held : Call → List Lease
  | .start c => c.teardowns
  | .release c => c.rest.flatMap ReleaseOp.held

def Call.isRelease : Call → Bool
  | .start _ => false
  | .release _ => true

def Call.has (op : ReleaseOp) : Call → Prop
  | .start _ => False
  | .release c => op ∈ c.rest

def Call.stopping : Call → Prop
  | .start _ => False
  | .release c => c.stopping = true

def Node.held (n : Node) : List Lease :=
  n.gatewayServer.toList ++ n.unsubscribeDiscovery.toList ++ n.subscriptionTeardowns ++
    n.listenHandle.toList ++ n.transportSubscription.toList ++ n.actors

end Held

/-- What is still up will be released: by an operation that `has` says is still to
come, or, for what the actor system keeps, by the call that is stopping it. -/
structure Drains (n : Node) (has : ReleaseOp → Prop) (stopping : Prop) : Prop where
  gateway : n.gatewayServer = none ∨ has .closeGateway
  discovery : n.unsubscribeDiscovery = none ∨ has .unsubscribeDiscovery
  subscriptions : n.subscriptionTeardowns = [] ∨ has .teardownSubscriptions
  transport : n.listenHandle = none ∨ has .stopTransport
  running : n.systemRunning = false ∨ has .stopSystem
  system : n.systemRunning = true ∨ n.transportSubscription = none ∧ n.actors = [] ∨ stopping

theorem Drains.mono {n : Node} {has p : ReleaseOp → Prop} {stopping q : Prop}
    (h : Drains n has stopping) (hhas : ∀ op, has op → p op) (hst : stopping → q) :
    Drains n p q where
  gateway := h.gateway.imp_right (hhas _)
  discovery := h.discovery.imp_right (hhas _)
  subscriptions := h.subscriptions.imp_right (hhas _)
  transport := h.transport.imp_right (hhas _)
  running := h.running.imp_right (hhas _)
  system := h.system.imp_right (Or.imp_right hst)

theorem Drains.held_eq_nil {n : Node} (h : Drains n (fun _ => False) False) : n.held = [] := by
  have hsystem : n.transportSubscription = none ∧ n.actors = [] := by
    rcases h.system with hr | hs | hf
    · exact absurd (h.running.resolve_right id) (by rw [hr]; exact Bool.noConfusion)
    · exact hs
    · exact hf.elim
  simp only [Node.held, h.gateway.resolve_right id, h.discovery.resolve_right id,
    h.subscriptions.resolve_right id, h.transport.resolve_right id, hsystem, toList_none,
    append_nil]

/-- What one call leaves behind when it comes to its next await, of a stop or a
rollback that had `others` beside it. -/
structure Releases (r : Node × Option Call) (others : List Lease) (has : ReleaseOp → Prop)
    (stopping : Prop) : Prop where
  isRelease : ∀ c ∈ r.2, c.isRelease = true
  balanced : r.1.leases.Balanced (r.1.held ++ (r.2.toList.flatMap Call.held ++ others))
  drains : Drains r.1 (fun op => (∃ c ∈ r.2, Call.has op c) ∨ has op)
    ((∃ c ∈ r.2, Call.stopping c) ∨ stopping)

theorem Leases.Balanced.of_count {held held' : List Lease} {l : Leases Resource}
    (h : l.Balanced held) (hc : ∀ x, held.count x = held'.count x) : l.Balanced held' :=
  h.congr (perm_iff_count.mpr hc)

theorem releases_awaiting {n : Node} {failed stops : Bool} {op : ReleaseOp}
    {rest : List ReleaseOp} {others : List Lease} {has : ReleaseOp → Prop} {stopping : Prop}
    (hb : n.leases.Balanced (n.held ++ (rest.flatMap ReleaseOp.held ++ others)))
    (hd : Drains n (fun op => op ∈ rest ∨ has op) (stops = true ∨ stopping)) :
    Releases (n, some (.release ⟨failed, op, stops, rest⟩)) others has stopping where
  isRelease := by
    rintro _ ⟨⟩
    rfl
  balanced := by
    simpa only [toList_some, flatMap_cons, flatMap_nil, append_nil,
      Call.held] using hb
  drains :=
    hd.mono (fun _ => Or.imp_left fun hop => ⟨_, rfl, hop⟩) (Or.imp_left fun hs => ⟨_, rfl, hs⟩)

theorem passed {P H : Prop} {x op : ReleaseOp} {rest : List ReleaseOp}
    (h : P ∨ x ∈ op :: rest ∨ H) (hop : x = op → P) : P ∨ x ∈ rest ∨ H := by
  rcases h with hp | hm | hh
  · exact .inl hp
  · rcases mem_cons.mp hm with he | hm
    · exact .inl (hop he)
    · exact .inr (.inl hm)
  · exact .inr (.inr hh)

theorem Drains.passed {n : Node} {op : ReleaseOp} {rest : List ReleaseOp}
    {has : ReleaseOp → Prop} {stopping : Prop}
    (h : Drains n (fun x => x ∈ op :: rest ∨ has x) stopping)
    (hgateway : .closeGateway = op → n.gatewayServer = none)
    (hdiscovery : .unsubscribeDiscovery = op → n.unsubscribeDiscovery = none)
    (hsubscriptions : .teardownSubscriptions = op → n.subscriptionTeardowns = [])
    (htransport : .stopTransport = op → n.listenHandle = none)
    (hrunning : .stopSystem = op → n.systemRunning = false) :
    Drains n (fun x => x ∈ rest ∨ has x) stopping where
  gateway := WebNode.passed h.gateway hgateway
  discovery := WebNode.passed h.discovery hdiscovery
  subscriptions := WebNode.passed h.subscriptions hsubscriptions
  transport := WebNode.passed h.transport htransport
  running := WebNode.passed h.running hrunning
  system := h.system

theorem Drains.free {n : Node} {has : ReleaseOp → Prop} {stopping : Prop}
    (h : Drains n has stopping) (l : Lease) : Drains (n.free l) has stopping :=
  ⟨h.gateway, h.discovery, h.subscriptions, h.transport, h.running, h.system⟩

theorem Node.held_free (n : Node) (l : Lease) : (n.free l).held = n.held := rfl

theorem flatMap_held_teardown (ls : List Lease) (rest : List ReleaseOp) :
    (ls.map ReleaseOp.teardown ++ .tornDown :: rest).flatMap ReleaseOp.held =
      ls ++ rest.flatMap ReleaseOp.held := by
  induction ls with
  | nil => rfl
  | cons l ls ih => simpa only [map_cons, cons_append, flatMap_cons,
      ReleaseOp.held, nil_append, List.cons.injEq, true_and] using ih

theorem Node.release_releases (n : Node) (failed : Bool) (ops : List ReleaseOp)
    (others : List Lease) (has : ReleaseOp → Prop) (stopping : Prop)
    (hb : n.leases.Balanced (n.held ++ (ops.flatMap ReleaseOp.held ++ others)))
    (hd : Drains n (fun op => op ∈ ops ∨ has op) stopping) :
    Releases (n.release failed ops) others has stopping := by
  induction ops generalizing n with
  | nil =>
    have hnone : Drains n (fun op => (∃ c ∈ (none : Option Call), Call.has op c) ∨ has op)
        ((∃ c ∈ (none : Option Call), Call.stopping c) ∨ stopping) :=
      hd.mono (fun _ => Or.imp_left nofun) Or.inr
    exact ⟨nofun, hb, hnone.gateway, hnone.discovery, hnone.subscriptions, hnone.transport,
      hnone.running, hnone.system⟩
  | cons op rest ih =>
    cases op with
    | closeServer l | teardown l =>
      refine releases_awaiting (Leases.Balanced.release (Leases.Balanced.of_count hb ?_))
        (((hd.passed nofun nofun nofun nofun nofun).free l).mono (fun _ => id) Or.inr)
      intro x
      simp only [flatMap_cons, ReleaseOp.held, Node.held_free, count_append,
        count_cons, count_nil]
      omega
    | unsubscribe l =>
      refine ih (n.free l) (Leases.Balanced.release (Leases.Balanced.of_count hb ?_))
        ((hd.passed nofun nofun nofun nofun nofun).free l)
      intro x
      simp only [flatMap_cons, ReleaseOp.held, Node.held_free, count_append,
        count_cons, count_nil]
      omega
    | unsubscribeDiscovery =>
      cases hu : n.unsubscribeDiscovery with
      | none =>
        simp only [Node.release, hu]
        exact ih n hb (hd.passed nofun (fun _ => hu) nofun nofun nofun)
      | some l =>
        simp only [Node.release, hu]
        refine ih _ (Leases.Balanced.release (Leases.Balanced.of_count hb ?_)) ?_
        · intro x
          simp only [flatMap_cons, ReleaseOp.held, Node.free, Node.held, hu,
            toList_some, toList_none, count_append, count_cons,
            count_nil]
          omega
        · exact ((Drains.mk (n := { n with unsubscribeDiscovery := none }) hd.gateway
            (.inl rfl) hd.subscriptions hd.transport hd.running hd.system).passed nofun
            (fun _ => rfl) nofun nofun nofun).free l
    | closeGateway =>
      cases hg : n.gatewayServer with
      | none =>
        simp only [Node.release, hg]
        exact ih n hb (hd.passed (fun _ => hg) nofun nofun nofun nofun)
      | some l =>
        simp only [Node.release, hg]
        refine releases_awaiting (Leases.Balanced.release (Leases.Balanced.of_count hb ?_)) ?_
        · intro x
          simp only [flatMap_cons, ReleaseOp.held, Node.free, Node.held, hg,
            toList_some, toList_none, count_append, count_cons,
            count_nil]
          omega
        · exact (((Drains.mk (n := { n with gatewayServer := none }) (.inl rfl)
            hd.discovery hd.subscriptions hd.transport hd.running hd.system).passed
            (fun _ => rfl) nofun nofun nofun nofun).free l).mono (fun _ => id) Or.inr
    | teardownSubscriptions =>
      cases ht : n.subscriptionTeardowns with
      | nil =>
        simp only [Node.release, ht]
        exact releases_awaiting hb
          ((hd.passed nofun nofun (fun _ => ht) nofun nofun).mono (fun _ => id) Or.inr)
      | cons l ls =>
        simp only [Node.release, ht]
        refine releases_awaiting (Leases.Balanced.release (Leases.Balanced.of_count hb ?_)) ?_
        · intro x
          simp only [flatMap_held_teardown, flatMap_cons, ReleaseOp.held, Node.free,
            Node.held, ht, count_append, count_cons, count_nil]
          omega
        · exact (((Drains.mk (n := { n with subscriptionTeardowns := [] }) hd.gateway
            hd.discovery (.inl rfl) hd.transport hd.running hd.system).passed nofun nofun
            (fun _ => rfl) nofun nofun).free l).mono
            (fun _ => Or.imp_left fun hm =>
              mem_append_right _ (mem_cons_of_mem _ hm)) Or.inr
    | stopSystem =>
      refine releases_awaiting hb ?_
      have hsystem : false = true ∨ (n.transportSubscription = none ∧ n.actors = []) ∨
          n.systemRunning = true ∨ stopping := by
        rcases hd.system with hr | hs | hs
        · exact .inr (.inr (.inl hr))
        · exact .inr (.inl hs)
        · exact .inr (.inr (.inr hs))
      exact (Drains.mk (n := { n with systemRunning := false }) hd.gateway hd.discovery
        hd.subscriptions hd.transport (.inl rfl) hsystem).passed nofun nofun nofun nofun
        (fun _ => rfl)
    | stopTransport =>
      refine releases_awaiting (Leases.Balanced.releaseAll (Leases.Balanced.of_count hb ?_)) ?_
      · intro x
        simp only [flatMap_cons, ReleaseOp.held, Node.held, toList_none,
          count_append, count_nil]
        omega
      · exact ((Drains.mk
          (n := { n with
            listenHandle := none
            leases := n.leases.releaseAll n.listenHandle.toList })
          hd.gateway hd.discovery hd.subscriptions (.inl rfl) hd.running hd.system).passed nofun
          nofun nofun (fun _ => rfl) nofun).mono (fun _ => id) Or.inr
    | unregisterSelf | tornDown =>
      exact releases_awaiting hb
        ((hd.passed nofun nofun nofun nofun nofun).mono (fun _ => id) Or.inr)

section Start

def StartOp.brings (o : NodeOptions) : StartOp → List Resource
  | .startTransport => if o.startable then [.transport] else []
  | .startSystem => [.system]
  | .spawn address => [.actor address]
  | .wire pair => [.subscription pair]
  | .createServer => [.gateway]
  | .discover => if o.watches then [.discovery] else []
  | _ => []

def Wiring : List StartOp → Prop
  | .wire _ :: _ | .wired :: _ => True
  | _ => False

/-- Actors are spawned once the actor system is up, and the subscriptions are
wired in one go. -/
def InOrder : Bool → List StartOp → Prop
  | _, [] => True
  | up, .startSystem :: rest => up = false ∧ InOrder true rest
  | up, .spawn _ :: rest => up = true ∧ InOrder up rest
  | up, .wire _ :: rest => Wiring rest ∧ InOrder up rest
  | up, .wired :: rest => .wired ∉ rest ∧ InOrder up rest
  | up, _ :: rest => InOrder up rest

structure Typed (n : Node) : Prop where
  gateway : ∀ l ∈ n.gatewayServer, l.1 = .gateway
  discovery : ∀ l ∈ n.unsubscribeDiscovery, l.1 = .discovery
  transport : ∀ l ∈ n.listenHandle, l.1 = .transport
  system : ∀ l ∈ n.transportSubscription, l.1 = .system
  subscriptions : ∀ l ∈ n.subscriptionTeardowns, ∃ pair, l.1 = .subscription pair
  actors : ∀ l ∈ n.actors, ∃ address, l.1 = .actor address

/-- The node of a start, alone, that has the operations `ops` before it: what is
up and what these will bring up are all that the node runs. -/
structure Ahead (o : NodeOptions) (n : Node) (teardowns : List Lease)
    (transportStarted systemStarted : Bool) (ops : List StartOp) : Prop where
  balanced : n.leases.Balanced (n.held ++ teardowns)
  typed : Typed n
  pairs : ∀ l ∈ teardowns, ∃ pair, l.1 = .subscription pair
  all : ((n.held ++ teardowns).map Prod.fst ++ ops.flatMap (StartOp.brings o)).Perm o.resources
  order : InOrder n.systemRunning ops
  transport : n.listenHandle = none ∨ transportStarted = true
  system : systemStarted = n.systemRunning
  quiet : n.systemRunning = true ∨ n.transportSubscription = none ∧ n.actors = []
  wired : n.subscriptionTeardowns = [] ∨ .wired ∉ ops
  wiring : teardowns = [] ∨ Wiring ops

namespace Ahead

variable {o : NodeOptions} {n : Node} {ts : List Lease} {tr sy : Bool} {op : StartOp}
  {rest : List StartOp}

def plain : StartOp → Bool
  | .spawned | .importServer | .getPeers | .connectPeer | .join | .registerSelf => true
  | _ => false

theorem after {m : Node} {u : List Lease} {tr' sy' : Bool} (h : Ahead o n ts tr sy (op :: rest))
    (hup : m.leases.Balanced (m.held ++ u) ∧
      ((m.held ++ u).map Prod.fst ++ rest.flatMap (StartOp.brings o)).Perm o.resources)
    (typed : Typed m) (pairs : ∀ l ∈ u, ∃ pair, l.1 = .subscription pair)
    (order : InOrder m.systemRunning rest) (transport : m.listenHandle = none ∨ tr' = true)
    (system : sy' = m.systemRunning)
    (quiet : m.systemRunning = true ∨ m.transportSubscription = none ∧ m.actors = [])
    (hsame : m.subscriptionTeardowns = n.subscriptionTeardowns) (wiring : u = [] ∨ Wiring rest) :
    Ahead o m u tr' sy' rest where
  balanced := hup.1
  typed := typed
  pairs := pairs
  all := hup.2
  order := order
  transport := transport
  system := system
  quiet := quiet
  wired := hsame ▸ h.wired.imp_right fun hw hm => hw (mem_cons_of_mem _ hm)
  wiring := wiring

theorem tail (h : Ahead o n ts tr sy (op :: rest)) (hop : plain op = true) :
    Ahead o n ts tr sy rest := by
  refine h.after ⟨h.balanced, ?_⟩ h.typed h.pairs ?_ h.transport h.system h.quiet rfl
    (.inl (h.wiring.resolve_right fun hw => ?_))
  · have := h.all
    cases op <;> first | exact this | exact Bool.noConfusion hop
  · have := h.order
    cases op <;> first | exact this | exact Bool.noConfusion hop
  · cases op <;> first | exact hw | exact Bool.noConfusion hop

theorem peers (h : Ahead o n ts tr sy rest) (hts : ts = []) (k : Nat) :
    Ahead o n ts tr sy (List.replicate k .connectPeer ++ rest) := by
  induction k with
  | zero => exact h
  | succ k ih =>
    exact { h with
      all := ih.all
      order := ih.order
      wired := ih.wired.imp_right fun hw hm => hw ((mem_cons.mp hm).resolve_left nofun)
      wiring := .inl hts }

theorem absent {r : Resource} (h : Ahead o n ts tr sy (op :: rest)) (ho : o.resources.Nodup)
    (hr : r ∈ op.brings o) {l : Lease} (hl : l ∈ n.held) : l.1 ≠ r := by
  have hnodup := h.all.nodup_iff.mpr ho
  have hdisjoint := disjoint_of_nodup_append hnodup
  rintro rfl
  refine hdisjoint (mem_map_of_mem (mem_append_left _ hl)) ?_
  exact mem_flatMap.mpr ⟨op, mem_cons_self, hr⟩

theorem no_wiring (h : Ahead o n ts tr sy (op :: rest)) (hop : ¬ Wiring (op :: rest)) : ts = [] :=
  h.wiring.resolve_right hop

theorem acquires {m : Node} {u : List Lease} {r : Resource}
    (h : Ahead o n ts tr sy (op :: rest)) (hr : op.brings o = [r])
    (hleases : m.leases = n.leases.acquire r)
    (hheld : (n.leases.fresh r :: (n.held ++ ts)).Perm (m.held ++ u)) :
    m.leases.Balanced (m.held ++ u) ∧
      ((m.held ++ u).map Prod.fst ++ rest.flatMap (StartOp.brings o)).Perm o.resources := by
  constructor
  · rw [hleases]
    exact (h.balanced.acquire r).congr hheld
  · refine .trans (.append_right _ (hheld.map _).symm) (.trans ?_ h.all)
    rw [flatMap_cons, hr]
    exact perm_middle.symm

theorem listenHandle_eq (h : Ahead o n ts tr sy (.startTransport :: rest))
    (ho : o.resources.Nodup) (hs : o.startable = true) : n.listenHandle = none := by
  have hbrings : StartOp.startTransport.brings o = [.transport] := if_pos hs
  refine eq_none_iff_forall_not_mem.mpr fun l hl => ?_
  refine h.absent ho (hbrings ▸ mem_singleton_self _) (l := l) ?_ (h.typed.transport l hl)
  simp only [Node.held, mem_append, mem_toList, mem_def.mp hl, or_true, true_or]

theorem transported (h : Ahead o n ts tr sy (.startTransport :: rest)) (ho : o.resources.Nodup)
    (hs : o.startable = true) : Ahead o
      { n with
        listenHandle := some (n.leases.fresh .transport)
        leases := n.leases.acquire .transport } ts true sy rest := by
  have hnone := h.listenHandle_eq ho hs
  refine h.after (h.acquires (if_pos hs) rfl (perm_iff_count.mpr fun x => ?_))
    { h.typed with transport := by rintro _ ⟨⟩; rfl } h.pairs h.order (.inr rfl) h.system h.quiet rfl
    (.inl (h.no_wiring nofun))
  simp only [Node.held, hnone, toList_none, toList_some, count_append,
    count_cons, count_nil]
  omega

theorem transport_passed (h : Ahead o n ts tr sy (.startTransport :: rest))
    (hs : o.startable = false) : Ahead o n ts true sy rest :=
  h.after ⟨h.balanced, by simpa [StartOp.brings, hs] using h.all⟩ h.typed h.pairs h.order (.inr rfl)
    h.system h.quiet rfl (.inl (h.no_wiring nofun))

theorem systemStarted (h : Ahead o n ts tr sy (.startSystem :: rest)) : Ahead o
      { n with
        systemRunning := true
        transportSubscription := some (n.leases.fresh .system)
        leases := n.leases.acquire .system } ts tr true rest := by
  obtain ⟨hnone, hactors⟩ := h.quiet.resolve_left (by rw [h.order.1]; exact Bool.noConfusion)
  refine h.after (h.acquires rfl rfl (perm_iff_count.mpr fun x => ?_))
    { h.typed with system := by rintro _ ⟨⟩; rfl } h.pairs h.order.2 h.transport rfl (.inl rfl) rfl
    (.inl (h.no_wiring nofun))
  simp only [Node.held, hnone, toList_none, toList_some, count_append,
    count_cons, count_nil]
  omega

theorem spawned {address : String} (h : Ahead o n ts tr sy (.spawn address :: rest))
    (ho : o.resources.Nodup) : Ahead o
      { n with
        actors := (n.actors.filter fun l => l.1 ≠ .actor address) ++
          [n.leases.fresh (.actor address)]
        leases := n.leases.acquire (.actor address) } ts tr sy rest := by
  have hnew : (n.actors.filter fun l => l.1 ≠ .actor address) = n.actors := by
    refine filter_eq_self.mpr fun l hl => decide_eq_true ?_
    exact h.absent ho (mem_singleton_self _) (mem_append_right _ hl)
  refine h.after (h.acquires rfl rfl (perm_iff_count.mpr fun x => ?_))
    { h.typed with actors := fun l hl => ?_ } h.pairs h.order.2 h.transport h.system (.inl h.order.1) rfl
    (.inl (h.no_wiring nofun))
  · simp only [Node.held, hnew, count_append, count_cons, count_nil]
    omega
  · rcases mem_append.mp hl with hl | hl
    · exact h.typed.actors l (hnew ▸ hl)
    · exact ⟨address, congrArg Prod.fst (mem_singleton.mp hl)⟩

theorem wire {pair : Nat} (h : Ahead o n ts tr sy (.wire pair :: rest)) :
    Ahead o { n with leases := n.leases.acquire (.subscription pair) }
      (ts ++ [n.leases.fresh (.subscription pair)]) tr sy rest := by
  refine h.after (h.acquires rfl rfl (perm_iff_count.mpr fun x => ?_)) { h.typed with }
    (fun l hl => ?_) h.order.2 h.transport h.system h.quiet rfl (.inr h.order.1)
  · simp only [Node.held, count_append, count_cons, count_nil]
    omega
  · rcases mem_append.mp hl with hl | hl
    · exact h.pairs l hl
    · exact ⟨pair, congrArg Prod.fst (mem_singleton.mp hl)⟩

theorem wired_all (h : Ahead o n ts tr sy (.wired :: rest)) :
    Ahead o { n with subscriptionTeardowns := ts } [] tr sy rest := by
  have hnone : n.subscriptionTeardowns = [] :=
    h.wired.resolve_right fun hw => hw mem_cons_self
  have hheld : (n.held ++ ts).Perm ({ n with subscriptionTeardowns := ts }.held ++ []) := by
    refine perm_iff_count.mpr fun x => ?_
    simp only [Node.held, hnone, count_append, count_nil]
    omega
  exact { h with
    balanced := h.balanced.congr hheld
    typed := { h.typed with subscriptions := h.pairs }
    pairs := nofun
    all := .trans (.append_right _ (hheld.map _).symm) h.all
    order := h.order.2
    wired := .inr h.order.1
    wiring := .inl rfl }

theorem served (h : Ahead o n ts tr sy (.createServer :: rest)) (ho : o.resources.Nodup) : Ahead o
      { n with
        gatewayServer := some (n.leases.fresh .gateway)
        leases := n.leases.acquire .gateway } ts tr sy rest := by
  have hnone : n.gatewayServer = none := by
    refine eq_none_iff_forall_not_mem.mpr fun l hl => ?_
    refine h.absent ho (mem_singleton_self _) (l := l) ?_ (h.typed.gateway l hl)
    simp only [Node.held, mem_append, mem_toList, mem_def.mp hl, true_or]
  refine h.after (h.acquires rfl rfl (perm_iff_count.mpr fun x => ?_))
    { h.typed with gateway := by rintro _ ⟨⟩; rfl } h.pairs h.order h.transport h.system h.quiet rfl
    (.inl (h.no_wiring nofun))
  simp only [Node.held, hnone, toList_none, toList_some, count_append,
    count_cons, count_nil]
  omega

theorem discovered (h : Ahead o n ts tr sy (.discover :: rest)) (ho : o.resources.Nodup)
    (hw : o.watches = true) : Ahead o
      { n with
        unsubscribeDiscovery := some (n.leases.fresh .discovery)
        leases := n.leases.acquire .discovery } ts tr sy rest := by
  have hbrings : StartOp.discover.brings o = [.discovery] := if_pos hw
  have hnone : n.unsubscribeDiscovery = none := by
    refine eq_none_iff_forall_not_mem.mpr fun l hl => ?_
    refine h.absent ho (hbrings ▸ mem_singleton_self _) (l := l) ?_ (h.typed.discovery l hl)
    simp only [Node.held, mem_append, mem_toList, mem_def.mp hl, or_true, true_or]
  refine h.after (h.acquires hbrings rfl (perm_iff_count.mpr fun x => ?_))
    { h.typed with discovery := by rintro _ ⟨⟩; rfl } h.pairs h.order h.transport h.system h.quiet rfl
    (.inl (h.no_wiring nofun))
  simp only [Node.held, hnone, toList_none, toList_some, count_append,
    count_cons, count_nil]
  omega

theorem undiscovered (h : Ahead o n ts tr sy (.discover :: rest)) (hw : o.watches = false) :
    Ahead o { n with unsubscribeDiscovery := none } ts tr sy rest := by
  have hnone : n.unsubscribeDiscovery = none := by
    refine eq_none_iff_forall_not_mem.mpr fun l hl => ?_
    have hmem : l ∈ n.held ++ ts := by
      simp only [Node.held, mem_append, mem_toList, mem_def.mp hl, or_true,
        true_or]
    have hres := h.all.mem_iff.mp (mem_append_left _ (mem_map_of_mem hmem))
    rw [h.typed.discovery l hl] at hres
    simp [NodeOptions.resources, hw] at hres
  have hn : { n with unsubscribeDiscovery := none } = n := by rw [← hnone]
  rw [hn]
  exact h.after ⟨h.balanced, by simpa [StartOp.brings, hw] using h.all⟩ h.typed h.pairs h.order
    h.transport h.system h.quiet rfl (.inl (h.no_wiring nofun))

theorem drains (h : Ahead o n ts tr sy (op :: rest)) (c : Startup) (htr : c.transportStarted = tr)
    (hsy : c.systemStarted = sy) : Drains n (fun x => x ∈ c.rollbackOps ∨ False) False where
  gateway := .inr (.inl (by simp [Startup.rollbackOps]))
  discovery := .inr (.inl (by simp [Startup.rollbackOps]))
  subscriptions := .inr (.inl (by simp [Startup.rollbackOps]))
  transport := h.transport.imp_right fun ht =>
    .inl (by simp [Startup.rollbackOps, htr, ht])
  running := by
    rw [← h.system, ← hsy]
    cases hs : c.systemStarted with
    | false => exact .inl rfl
    | true => exact .inr (.inl (by simp [Startup.rollbackOps, hs]))
  system := h.quiet.imp_right .inl

end Ahead

/-- A start may fail where nothing is lost with it: not in the actor system, nor
once it has wired a subscription. -/
def Startup.failsSafely (c : Startup) : Bool :=
  match c.awaiting with
  | .startSystem => false
  | .wire _ => c.teardowns.isEmpty
  | _ => true

structure Pending (o : NodeOptions) (n : Node) (c : Startup) : Prop where
  resolves : c.settles true = true → ∀ peers, Ahead o (n.resolve c peers).1
    (n.resolve c peers).2.teardowns (n.resolve c peers).2.transportStarted
    (n.resolve c peers).2.systemStarted (n.resolve c peers).2.rest
  rejects : c.settles false = true → c.failsSafely = true → n.leases.Balanced n.held ∧
    Drains n (fun x => x ∈ c.rollbackOps ∨ False) False
  balanced : n.leases.Balanced (n.held ++ c.teardowns)
  typed : Typed n

inductive Advanced (o : NodeOptions) (goesOn : Bool) (len : Nat) : Node × Option Call → Prop
  | started {n : Node} (running : n.running = true) (last : n.last = some .started)
      (balanced : n.leases.Balanced n.held) (typed : Typed n)
      (all : (n.held.map Prod.fst).Perm o.resources)
      (quiet : n.systemRunning = true ∨ n.transportSubscription = none ∧ n.actors = []) :
      Advanced o goesOn len (n, none)
  | pending {n : Node} {c : Startup} (running : n.running = false) (pending : Pending o n c)
      (shorter : c.rest.length < len) (settles : goesOn = true → c.settles true = true) :
      Advanced o goesOn len (n, some (.start c))
  | failed {r : Node × Option Call} (stuck : goesOn = false) (running : r.1.running = false)
      (typed : Typed r.1) (releases : Releases r [] (fun _ => False) False) : Advanced o goesOn len r

variable {o : NodeOptions} {n : Node} {c : Startup} {goesOn : Bool}

theorem Node.release_running (n : Node) (failed : Bool) (ops : List ReleaseOp) :
    (n.release failed ops).1.running = n.running := by
  induction ops generalizing n with
  | nil => rfl
  | cons op rest ih =>
    cases op <;> simp only [Node.release] <;>
      first
      | rfl
      | exact ih _
      | (split <;> first | rfl | exact ih _)

theorem Typed.release (failed : Bool) (ops : List ReleaseOp) (h : Typed n) :
    Typed (n.release failed ops).1 := by
  induction ops generalizing n with
  | nil => exact { h with }
  | cons op rest ih =>
    cases op with
    | closeServer | teardown | unregisterSelf | tornDown | stopSystem => exact { h with }
    | unsubscribe => exact ih { h with }
    | stopTransport => exact { h with transport := nofun }
    | unsubscribeDiscovery =>
      simp only [Node.release]
      split
      · exact ih h
      · exact ih { h with discovery := nofun }
    | closeGateway =>
      simp only [Node.release]
      split
      · exact ih h
      · exact { h with gateway := nofun }
    | teardownSubscriptions =>
      simp only [Node.release]
      split
      · exact h
      · exact { h with subscriptions := nofun }

theorem rollbackOps_held (c : Startup) : c.rollbackOps.flatMap ReleaseOp.held = [] := by
  unfold Startup.rollbackOps
  cases c.registeredSelf <;> cases c.systemStarted <;> cases c.transportStarted <;> rfl

theorem rollback_releases (hb : n.leases.Balanced n.held)
    (hd : Drains n (fun x => x ∈ c.rollbackOps ∨ False) False) :
    Releases (n.rollback c) [] (fun _ => False) False := by
  refine Node.release_releases _ true _ _ _ _ ?_
    ⟨hd.gateway, hd.discovery, hd.subscriptions, hd.transport, hd.running, hd.system⟩
  rw [rollbackOps_held, nil_append, append_nil]
  exact hb

theorem Ahead.pending {op : StartOp} {rest : List StartOp} {b : Bool}
    (h : Ahead o n c.teardowns c.transportStarted c.systemStarted (op :: rest))
    (hresolves : Startup.settles { c with awaiting := op, begun := b, rest := rest } true = true →
      ∀ peers, Ahead o
        (n.resolve { c with awaiting := op, begun := b, rest := rest } peers).1
        (n.resolve { c with awaiting := op, begun := b, rest := rest } peers).2.teardowns
        (n.resolve { c with awaiting := op, begun := b, rest := rest } peers).2.transportStarted
        (n.resolve { c with awaiting := op, begun := b, rest := rest } peers).2.systemStarted
        (n.resolve { c with awaiting := op, begun := b, rest := rest } peers).2.rest) :
    Pending o n { c with awaiting := op, begun := b, rest := rest } where
  resolves := hresolves
  rejects := by
    intro hs hsafe
    have hts : c.teardowns = [] := by
      cases op with
      | wire k => exact List.isEmpty_iff.mp hsafe
      | wired => exact absurd hs Bool.noConfusion
      | _ => exact h.no_wiring nofun
    refine ⟨?_, h.drains _ rfl rfl⟩
    simpa only [hts, append_nil] using h.balanced
  balanced := h.balanced
  typed := h.typed

theorem Advanced.mono {k l : Nat} {r : Node × Option Call} (h : Advanced o goesOn k r)
    (hkl : k ≤ l) : Advanced o goesOn l r := by
  cases h with
  | started hr hl hb ht ha hq => exact .started hr hl hb ht ha hq
  | pending hr hp hs hok => exact .pending hr hp (Nat.lt_of_lt_of_le hs hkl) hok
  | failed hs hr ht hrel => exact .failed hs hr ht hrel

theorem Ahead.advance (goesOn : Bool) {ops : List StartOp} (ho : o.resources.Nodup) (hrun : n.running = false)
    (h : Ahead o n c.teardowns c.transportStarted c.systemStarted ops) :
    Advanced o goesOn ops.length (n.advance o c goesOn ops) := by
  induction ops generalizing n with
  | nil =>
    have hts : c.teardowns = [] := h.wiring.resolve_right id
    have hb := h.balanced
    have hall := h.all
    rw [hts, append_nil] at hb hall
    rw [flatMap_nil, append_nil] at hall
    exact .started rfl rfl hb { h.typed with } hall h.quiet
  | cons op rest ih =>
    have hlen : rest.length < (op :: rest).length := Nat.lt_succ_self _
    cases op with
    | startTransport =>
      refine .pending hrun (h.pending fun _ peers => ?_) hlen fun _ => rfl
      cases hs : o.startable with
      | false =>
        simp only [Node.resolve, Bool.false_and, Bool.false_eq_true, if_false]
        exact h.transport_passed hs
      | true =>
        simp only [Node.resolve, h.listenHandle_eq ho hs, isNone_none, Bool.and_self,
          if_true]
        exact h.transported ho hs
    | startSystem =>
      have hdown : n.systemRunning = false := h.order.1
      simp only [Node.advance, hdown, Bool.false_eq_true, if_false]
      have hup := h.systemStarted
      exact .pending hrun ⟨fun _ _ => hup, fun _ hsafe => absurd hsafe Bool.noConfusion, hup.balanced, hup.typed⟩ hlen
        fun _ => rfl
    | spawn address =>
      simp only [Node.advance]
      split
      · have hup := h.spawned ho
        exact .pending hrun ⟨fun _ _ => hup, fun hs => absurd hs Bool.noConfusion, hup.balanced,
          hup.typed⟩ hlen fun _ => rfl
      · next hstuck =>
          refine .pending hrun (h.pending fun hs => absurd hs Bool.noConfusion) hlen fun hgo => ?_
          exact absurd ⟨hgo, h.order.1⟩ hstuck
    | wire pair =>
      exact .pending hrun (h.pending fun _ _ => h.wire) hlen fun _ => rfl
    | wired =>
      exact .pending hrun (h.pending fun _ _ => h.wired_all) hlen fun _ => rfl
    | createServer =>
      exact .pending hrun (h.pending fun _ _ => h.served ho) hlen fun _ => rfl
    | getPeers =>
      exact .pending hrun
        (h.pending fun _ peers => (h.tail rfl).peers (h.no_wiring nofun) peers) hlen fun _ => rfl
    | discover =>
      cases goesOn with
      | false =>
        have hb := h.balanced
        rw [h.no_wiring nofun, append_nil] at hb
        exact .failed rfl (Node.release_running _ _ _)
          (Typed.release _ _ { h.typed with }) (rollback_releases hb (h.drains c rfl rfl))
      | true =>
        cases hw : o.watches with
        | true =>
          simp only [Node.advance, hw, if_true]
          refine (ih ?_ (h.discovered ho hw)).mono (Nat.le_of_lt hlen)
          exact hrun
        | false =>
          simp only [Node.advance, hw, if_true, Bool.false_eq_true, if_false]
          refine (ih ?_ (h.undiscovered hw)).mono (Nat.le_of_lt hlen)
          exact hrun
    | registerSelf =>
      simp only [Node.advance]
      split
      · exact .pending hrun (h.pending fun _ _ => h.tail rfl) hlen fun _ => rfl
      · exact (ih hrun (h.tail rfl)).mono (Nat.le_of_lt hlen)
    | spawned | importServer | connectPeer | join =>
      exact .pending hrun (h.pending fun _ _ => h.tail rfl) hlen fun _ => rfl

end Start

section Runs

variable {o : NodeOptions} {n : Node}

/-- What an await may settle with: an actor system that is being stopped stops. -/
def Call.Settles (ok : Bool) : Call → Prop
  | .start c => ok = true ∨ c.failsSafely = true
  | .release c => ok = true ∨ c.stopping = false

/-- A start that finds the node down is called while no other call is pending, and
a stop while no start is bringing anything up. -/
def Meets (n : Node) : Act → Prop
  | .start => n.running = true ∨ n.calls = []
  | .stop => ∀ c ∈ n.calls, c.isRelease = true
  | .settle i ok _ _ => ∀ c ∈ n.calls[i]?, c.Settles ok

instance (ok : Bool) : (c : Call) → Decidable (c.Settles ok)
  | .start _ => inferInstanceAs (Decidable (_ ∨ _))
  | .release _ => inferInstanceAs (Decidable (_ ∨ _))

instance (n : Node) : (a : Act) → Decidable (Meets n a)
  | .start => inferInstanceAs (Decidable (_ ∨ _))
  | .stop => inferInstanceAs (Decidable (∀ c ∈ n.calls, c.isRelease = true))
  | .settle i ok _ _ => inferInstanceAs (Decidable (∀ c ∈ n.calls[i]?, c.Settles ok))

inductive Phase (o : NodeOptions) (n : Node) : Prop
  | up (calls : n.calls = []) (running : n.running = true) (last : n.last = some .started)
      (balanced : n.leases.Balanced n.held) (typed : Typed n)
      (all : (n.held.map Prod.fst).Perm o.resources)
      (quiet : n.systemRunning = true ∨ n.transportSubscription = none ∧ n.actors = [])
  | starting {c : Startup} (calls : n.calls = [.start c]) (running : n.running = false)
      (pending : Pending o n c)
  | releasing (running : n.running = false) (isRelease : ∀ c ∈ n.calls, c.isRelease = true)
      (balanced : n.leases.Balanced (n.held ++ n.calls.flatMap Call.held)) (typed : Typed n)
      (drains : Drains n (fun op => ∃ c ∈ n.calls, Call.has op c) (∃ c ∈ n.calls, Call.stopping c))

theorem Node.release_calls (n : Node) (failed : Bool) (ops : List ReleaseOp) :
    (n.release failed ops).1.calls = n.calls := by
  induction ops generalizing n with
  | nil => rfl
  | cons op rest ih =>
    cases op <;> simp only [Node.release] <;>
      first
      | rfl
      | exact ih _
      | (split <;> first | rfl | exact ih _)

theorem Node.advance_calls (n : Node) (c : Startup) (goesOn : Bool) (ops : List StartOp) :
    (n.advance o c goesOn ops).1.calls = n.calls := by
  induction ops generalizing n with
  | nil => rfl
  | cons op rest ih =>
    cases op with
    | discover =>
      simp only [Node.advance]
      split
      · split
        · exact ih _
        · exact ih _
      · exact Node.release_calls _ _ _
    | registerSelf =>
      simp only [Node.advance]
      split
      · rfl
      · exact ih _
    | startSystem | spawn =>
      simp only [Node.advance]
      split <;> rfl
    | _ => rfl

theorem Node.resolve_calls (n : Node) (c : Startup) (peers : Nat) :
    (n.resolve c peers).1.calls = n.calls ∧ (n.resolve c peers).1.running = n.running := by
  unfold Node.resolve
  split <;> first | exact ⟨rfl, rfl⟩ | (split <;> exact ⟨rfl, rfl⟩)

variable {r : Node × Option Call} {pre post : List Call}

theorem Releases.phase (pre post : List Call)
    (h : Releases r ((pre ++ post).flatMap Call.held) (fun op => ∃ c ∈ pre ++ post, Call.has op c)
      (∃ c ∈ pre ++ post, Call.stopping c)) (hrun : r.1.running = false) (ht : Typed r.1)
    (hcalls : ∀ c ∈ pre ++ post, c.isRelease = true) :
    Phase o { r.1 with calls := pre ++ r.2.toList ++ post } := by
  have hmem : ∀ c, c ∈ pre ++ r.2.toList ++ post ↔ c ∈ r.2 ∨ c ∈ pre ++ post := by
    intro c
    simp only [mem_append, mem_toList, mem_def]
    tauto
  have hdrains := h.drains.mono (p := fun op => ∃ c ∈ pre ++ r.2.toList ++ post, Call.has op c)
    (q := ∃ c ∈ pre ++ r.2.toList ++ post, Call.stopping c)
    (by
      rintro op (⟨c, hc, hop⟩ | ⟨c, hc, hop⟩)
      · exact ⟨c, (hmem c).mpr (.inl hc), hop⟩
      · exact ⟨c, (hmem c).mpr (.inr hc), hop⟩)
    (by
      rintro (⟨c, hc, hs⟩ | ⟨c, hc, hs⟩)
      · exact ⟨c, (hmem c).mpr (.inl hc), hs⟩
      · exact ⟨c, (hmem c).mpr (.inr hc), hs⟩)
  refine .releasing hrun (fun c hc => ((hmem c).mp hc).elim (h.isRelease c) (hcalls c)) ?_
    { ht with } ⟨hdrains.gateway, hdrains.discovery, hdrains.subscriptions, hdrains.transport, hdrains.running,
      hdrains.system⟩
  refine Leases.Balanced.of_count h.balanced fun x => ?_
  simp only [Node.held, flatMap_append, count_append]
  omega

theorem resources_nodup (h : o.actors.Nodup) : o.resources.Nodup := by
  have hactors : (o.actors.map Resource.actor).Nodup := h.map fun _ _ => Resource.actor.inj
  have hpairs : ((List.range o.pairs).map Resource.subscription).Nodup :=
    nodup_range.map fun _ _ => Resource.subscription.inj
  unfold NodeOptions.resources
  cases o.startable <;> cases o.gateway <;> cases o.watches <;>
    simp [nodup_append, or_imp, forall_and, hactors, hpairs]

theorem inOrder_spawns {addresses : List String} {rest : List StartOp} (h : InOrder true rest) :
    InOrder true (addresses.map .spawn ++ rest) := by
  induction addresses with
  | nil => exact h
  | cons a as ih => exact ⟨rfl, ih⟩

theorem inOrder_wires {pairs : List Nat} {up : Bool} {r : List StartOp} (hw : Wiring r)
    (h : InOrder up r) : Wiring (pairs.map .wire ++ r) ∧ InOrder up (pairs.map .wire ++ r) := by
  induction pairs with
  | nil => exact ⟨hw, h⟩
  | cons p ps ih => exact ⟨trivial, ih⟩

theorem inOrder_startOps (o : NodeOptions) : InOrder false o.startOps := by
  have hopen : .wired ∉ o.openOps ∧ InOrder true o.openOps := by
    unfold NodeOptions.openOps
    cases o.gateway <;> cases o.discovery <;> cases o.connects <;> cases o.registers <;>
      simp [InOrder]
  have hwires : InOrder true
      (.spawned :: ((List.range o.pairs).map .wire ++ .wired :: o.openOps)) :=
    (inOrder_wires (r := .wired :: o.openOps) trivial hopen).2
  exact ⟨rfl, inOrder_spawns hwires⟩

theorem brings_startOps (o : NodeOptions) :
    o.startOps.flatMap (StartOp.brings o) = o.resources := by
  have hspawns : (o.actors.map StartOp.spawn).flatMap (StartOp.brings o) = o.actors.map .actor := by
    rw [flatMap_map]
    exact map_eq_flatMap.symm
  have hwires : ((List.range o.pairs).map StartOp.wire).flatMap (StartOp.brings o) =
      (List.range o.pairs).map .subscription := by
    rw [flatMap_map]
    exact map_eq_flatMap.symm
  have hopen : o.openOps.flatMap (StartOp.brings o) =
      (if o.gateway then [.gateway] else []) ++ (if o.watches then [.discovery] else []) := by
    unfold NodeOptions.openOps
    cases o.gateway <;> cases o.discovery <;> cases o.connects <;> cases o.registers <;>
      simp [StartOp.brings]
  simp only [NodeOptions.startOps, NodeOptions.resources, flatMap_cons, flatMap_append,
    hspawns, hwires, hopen, StartOp.brings, nil_append, append_assoc]

theorem ahead_startOps (ht : Typed n) (hb : n.leases.Balanced n.held)
    (hd : Drains n (fun _ => False) False) : Ahead o n [] false false o.startOps := by
  have hheld := hd.held_eq_nil
  have hsystem := hd.running.resolve_right id
  exact {
    balanced := by rwa [append_nil]
    typed := ht
    pairs := nofun
    all := by
      rw [hheld, brings_startOps]
      exact .refl _
    order := hsystem ▸ inOrder_startOps o
    transport := .inl (hd.transport.resolve_right id)
    system := hsystem.symm
    quiet := hd.system.imp_right fun h => h.resolve_right id
    wired := .inl (hd.subscriptions.resolve_right id)
    wiring := .inl rfl }

theorem Ahead.calls {ts : List Lease} {tr sy : Bool} {ops : List StartOp}
    (h : Ahead o n ts tr sy ops) (cs : List Call) : Ahead o { n with calls := cs } ts tr sy ops :=
  ⟨h.balanced, { h.typed with }, h.pairs, h.all, h.order, h.transport, h.system, h.quiet, h.wired,
    h.wiring⟩

theorem Node.resolve_put (n : Node) (cs : List Call) (c : Startup) (peers : Nat) :
    ({ n with calls := cs }).resolve c peers =
      ({ (n.resolve c peers).1 with calls := cs }, (n.resolve c peers).2) := by
  unfold Node.resolve
  split <;> first | rfl | (split <;> rfl)

theorem Pending.calls {c : Startup} (h : Pending o n c) (cs : List Call) :
    Pending o { n with calls := cs } c where
  resolves := by
    intro hs peers
    rw [Node.resolve_put]
    exact (h.resolves hs peers).calls cs
  rejects := by
    intro hs hsafe
    obtain ⟨hb, hd⟩ := h.rejects hs hsafe
    exact ⟨hb, hd.gateway, hd.discovery, hd.subscriptions, hd.transport, hd.running, hd.system⟩
  balanced := h.balanced
  typed := { h.typed with }

theorem Advanced.phase {goesOn : Bool} {k : Nat}
    (h : Advanced o goesOn k r) : Phase o { r.1 with calls := r.2.toList } := by
  cases h with
  | started hr hl hb ht ha hq => exact .up rfl hr hl hb { ht with } ha hq
  | pending hr hp _ _ => exact .starting rfl hr (hp.calls _)
  | failed _ hr ht hrel =>
    have hd := hrel.drains.mono (p := fun op => (∃ c ∈ r.2, Call.has op c) ∨ ∃ c ∈ [] ++ [], Call.has op c)
      (q := (∃ c ∈ r.2, Call.stopping c) ∨ ∃ c ∈ [] ++ [], Call.stopping c)
      (fun _ => Or.imp_right False.elim) (Or.imp_right False.elim)
    have hrel' : Releases r (([] ++ []).flatMap Call.held) (fun op => ∃ c ∈ [] ++ [], Call.has op c)
        (∃ c ∈ [] ++ [], Call.stopping c) :=
      ⟨hrel.isRelease, hrel.balanced, hd⟩
    have hphase := hrel'.phase (o := o) [] [] hr ht nofun
    rwa [nil_append, append_nil] at hphase

theorem put_zero (h : r.1.calls.length ≤ 1) : Node.put 0 r = { r.1 with calls := r.2.toList } := by
  have hdrop : r.1.calls.drop 1 = [] := drop_eq_nil_of_le h
  simp only [Node.put, take_zero, nil_append, Nat.zero_add, hdrop, append_nil]

theorem Phase.begins (ho : o.resources.Nodup) (h : Phase o n) (hrun : n.running = false)
    (hcalls : n.calls = []) :
    ∃ r, Advanced o true o.startOps.length r ∧ n.start o = { r.1 with calls := r.2.toList } := by
  cases h with
  | up _ hr _ _ _ _ _ => exact absurd (hrun.symm.trans hr) Bool.noConfusion
  | starting hc _ _ => exact absurd (hc.symm.trans hcalls) (cons_ne_nil _ _)
  | releasing _ _ hb ht hd =>
    simp only [hcalls, flatMap_nil, append_nil] at hb hd
    have hdown := hd.mono (p := fun _ => False) (q := False)
      (by rintro _ ⟨_, hc, _⟩; exact absurd hc not_mem_nil)
      (by rintro ⟨_, hc, _⟩; exact absurd hc not_mem_nil)
    have ha := (ahead_startOps (o := o) ht hb hdown).advance true
      (c := ⟨.startTransport, false, [], [], false, false, false⟩) ho hrun
    refine ⟨_, ha, ?_⟩
    simp only [Node.start, hrun, hcalls, length_nil, Bool.false_eq_true, if_false]
    exact put_zero (by rw [Node.advance_calls, hcalls]; exact Nat.zero_le 1)

theorem Phase.start (ho : o.resources.Nodup) (h : Phase o n)
    (hm : n.running = true ∨ n.calls = []) : Phase o (n.start o) := by
  cases hrun : n.running with
  | true =>
    simp only [Node.start, hrun, if_true]
    cases h with
    | up hc hr hl hb ht ha hq => exact .up hc rfl rfl hb { ht with } ha hq
    | starting _ hr _ | releasing hr _ _ _ _ => exact absurd (hrun.symm.trans hr) Bool.noConfusion
  | false =>
    have hcalls : n.calls = [] := hm.resolve_left (by rw [hrun]; exact Bool.noConfusion)
    obtain ⟨r, ha, hstart⟩ := h.begins ho hrun hcalls
    exact hstart ▸ ha.phase

theorem stopOps_held (n : Node) : (o.stopOps n).flatMap ReleaseOp.held =
      n.gatewayServer.toList ++ n.unsubscribeDiscovery.toList := by
  unfold NodeOptions.stopOps
  cases n.gatewayServer <;> cases n.unsubscribeDiscovery <;> cases o.registers <;> rfl

theorem stop_releases (hcalls : ∀ c ∈ n.calls, c.isRelease = true) (ht : Typed n)
    (hb : n.leases.Balanced (n.held ++ n.calls.flatMap Call.held))
    (hsystem : n.systemRunning = true ∨ (n.transportSubscription = none ∧ n.actors = []) ∨
      ∃ c ∈ n.calls, Call.stopping c) : Phase o (n.stop o) := by
  have hr := Node.release_releases
    { n with gatewayServer := none, running := false, unsubscribeDiscovery := none } false
    (o.stopOps n) (n.calls.flatMap Call.held) (fun op => ∃ c ∈ n.calls, Call.has op c)
    (∃ c ∈ n.calls, Call.stopping c) (by
      refine Leases.Balanced.of_count hb fun x => ?_
      simp only [stopOps_held, Node.held, toList_none, count_append, count_nil]
      omega)
    ⟨.inl rfl, .inl rfl, .inr (.inl (by simp [NodeOptions.stopOps])),
      .inr (.inl (by simp [NodeOptions.stopOps])), .inr (.inl (by simp [NodeOptions.stopOps])),
      hsystem⟩
  have htyped : Typed { n with gatewayServer := none, running := false, unsubscribeDiscovery := none } :=
    { ht with gateway := nofun, discovery := nofun }
  have hphase := Releases.phase (o := o) n.calls []
    (by simpa only [append_nil] using hr) (Node.release_running _ _ _)
    (htyped.release false (o.stopOps n)) (by simpa only [append_nil] using hcalls)
  have hdrop : n.calls.drop (n.calls.length + 1) = [] :=
    drop_eq_nil_of_le (Nat.le_succ _)
  simp only [Node.stop, Node.put, Node.release_calls, take_length, hdrop]
  exact hphase

theorem Phase.stop (h : Phase o n) (hm : ∀ c ∈ n.calls, c.isRelease = true) :
    Phase o (n.stop o) := by
  cases h with
  | up hc hr hl hb ht ha hq =>
    refine stop_releases hm ht ?_ (hq.imp_right .inl)
    rwa [hc, flatMap_nil, append_nil]
  | starting hc _ _ =>
    exact absurd (hm _ (hc ▸ mem_singleton_self _)) Bool.noConfusion
  | releasing _ _ hb ht hd => exact stop_releases hm ht hb hd.system

theorem flatMap_held_remove {c : Call} (x : Lease) :
    ((pre ++ c :: post).flatMap Call.held).count x =
      c.held.count x + ((pre ++ post).flatMap Call.held).count x := by
  simp only [flatMap_append, flatMap_cons, count_append]
  omega

theorem exists_remove {c : Call} {P : Call → Prop}
    (h : ∃ d ∈ pre ++ c :: post, P d) : P c ∨ ∃ d ∈ pre ++ post, P d := by
  obtain ⟨d, hd, hp⟩ := h
  rcases mem_append.mp hd with hd | hd
  · exact .inr ⟨d, mem_append_left _ hd, hp⟩
  · rcases mem_cons.mp hd with rfl | hd
    · exact .inl hp
    · exact .inr ⟨d, mem_append_right _ hd, hp⟩

theorem settleRelease_releases {c : Shutdown} {ok : Bool}
    (hcalls : n.calls = pre ++ .release c :: post)
    (hb : n.leases.Balanced (n.held ++ n.calls.flatMap Call.held))
    (hd : Drains n (fun op => ∃ c ∈ n.calls, Call.has op c) (∃ c ∈ n.calls, Call.stopping c))
    (hm : ok = true ∨ c.stopping = false) :
    Releases ((n.settleRelease c ok).release c.startFailed c.rest)
      ((pre ++ post).flatMap Call.held) (fun op => ∃ c ∈ pre ++ post, Call.has op c)
      (∃ c ∈ pre ++ post, Call.stopping c) := by
  rw [hcalls] at hb hd
  have hdrains := hd.mono
    (p := fun op => op ∈ c.rest ∨ ∃ c ∈ pre ++ post, Call.has op c)
    (q := c.stopping = true ∨ ∃ c ∈ pre ++ post, Call.stopping c)
    (fun _ => exists_remove) exists_remove
  refine Node.release_releases _ _ _ _ _ _ ?_ ?_
  · by_cases hs : c.stopping = true ∧ ok = true
    · simp only [Node.settleRelease, hs, and_self, if_true]
      refine Leases.Balanced.releaseAll (Leases.Balanced.of_count hb fun x => ?_)
      simp only [flatMap_held_remove, Call.held, Node.held, toList_none, count_append,
        count_nil]
      omega
    · simp only [Node.settleRelease, hs, if_false]
      refine Leases.Balanced.of_count hb fun x => ?_
      simp only [flatMap_held_remove, Call.held, count_append]
  · by_cases hs : c.stopping = true ∧ ok = true
    · simp only [Node.settleRelease, hs, and_self, if_true]
      exact ⟨hdrains.gateway, hdrains.discovery, hdrains.subscriptions, hdrains.transport,
        hdrains.running, .inr (.inl ⟨rfl, rfl⟩)⟩
    · simp only [Node.settleRelease, hs, if_false]
      have hidle : ¬ c.stopping = true := fun hst =>
        hs ⟨hst, hm.resolve_right (by rw [hst]; exact Bool.noConfusion)⟩
      exact hdrains.mono (fun _ => id) fun h => h.resolve_left hidle

theorem Node.settleRelease_calls (n : Node) (c : Shutdown) (ok : Bool) :
    (n.settleRelease c ok).calls = n.calls ∧ (n.settleRelease c ok).running = n.running := by
  unfold Node.settleRelease
  split <;> exact ⟨rfl, rfl⟩

theorem Typed.settleRelease (h : Typed n) (c : Shutdown) (ok : Bool) :
    Typed (n.settleRelease c ok) := by
  unfold Node.settleRelease
  split
  · exact { h with system := nofun, actors := nofun }
  · exact h

theorem Phase.settle (ho : o.resources.Nodup) {n' : Node} {i : Nat} {ok : Bool} {peers : Nat}
    {goesOn : Bool} (h : Phase o n) (hm : ∀ c ∈ n.calls[i]?, c.Settles ok)
    (hstep : step o n (.settle i ok peers goesOn) = some n') : Phase o n' := by
  obtain ⟨r, hr, rfl⟩ := map_eq_some_iff.mp hstep
  obtain ⟨call, hcall, hr⟩ := bind_eq_some_iff.mp hr
  have hset := hm call hcall
  cases h with
  | up hc _ _ _ _ _ _ =>
    rw [hc] at hcall
    exact absurd hcall (by simp)
  | @starting c hc hrun hp =>
    rw [hc] at hcall
    obtain ⟨hi, hget⟩ := List.getElem?_eq_some_iff.mp hcall
    obtain rfl : i = 0 := by simpa using hi
    obtain rfl : Call.start c = call := hget
    simp only [Call.settle] at hr
    split at hr
    · next hs =>
        cases ok with
        | true =>
          cases hr
          have ha := ((hp.resolves hs peers).advance goesOn ho
            ((n.resolve_calls c peers).2.trans hrun)).phase
          rwa [put_zero (by rw [Node.advance_calls, (n.resolve_calls c peers).1, hc]; exact Nat.le_refl 1)]
        | false =>
          cases hr
          obtain ⟨hb, hd⟩ := hp.rejects hs (hset.resolve_left Bool.noConfusion)
          have htyped : Typed { n with running := false } := { hp.typed with }
          have hrel : Advanced o false 0 (n.rollback c) := .failed rfl
            (Node.release_running _ _ _) (htyped.release true c.rollbackOps)
            (rollback_releases (c := c) hb hd)
          have hphase := hrel.phase
          rwa [put_zero (by
            rw [Node.rollback, Node.release_calls, hc]; exact Nat.le_refl 1)]
    · exact absurd hr (by simp)
  | releasing hrun hall hb ht hd =>
    obtain ⟨hi, hget⟩ := List.getElem?_eq_some_iff.mp hcall
    have hsplit : n.calls = n.calls.take i ++ call :: n.calls.drop (i + 1) := by
      rw [← hget, getElem_cons_drop, take_append_drop]
    cases call with
    | start c => exact absurd (hall _ (mem_of_getElem? hcall)) Bool.noConfusion
    | release c =>
      cases hr
      have hrel := settleRelease_releases hsplit hb hd hset
      have hphase := hrel.phase (o := o) _ _
        (by rw [Node.release_running, (n.settleRelease_calls c ok).2, hrun])
        (Typed.release _ _ (ht.settleRelease c ok)) (by
          intro c hc
          refine hall c ?_
          rw [hsplit]
          rcases mem_append.mp hc with hc | hc
          · exact mem_append_left _ hc
          · exact mem_append_right _ (mem_cons_of_mem _ hc))
      simp only [Node.put, Node.release_calls, (n.settleRelease_calls c ok).1]
      exact hphase

theorem Phase.step (ho : o.resources.Nodup) {n' : Node} {a : Act} (h : Phase o n)
    (hm : Meets n a) (hstep : step o n a = some n') : Phase o n' := by
  cases a with
  | start => exact some.inj hstep ▸ h.start ho hm
  | stop => exact some.inj hstep ▸ h.stop hm
  | settle i ok peers goesOn => exact h.settle ho hm hstep

theorem phase_created (o : NodeOptions) : Phase o created :=
  .releasing rfl nofun Leases.balanced_none
    ⟨nofun, nofun, nofun, nofun, nofun, nofun⟩
    ⟨.inl rfl, .inl rfl, .inl rfl, .inl rfl, .inl rfl, .inr (.inl ⟨rfl, rfl⟩)⟩

/-- Everything is up exactly once after a start that went through, and otherwise
everything that was acquired was released exactly once. -/
def Consistent (o : NodeOptions) (n : Node) : Prop :=
  n.last = some .started ∧ n.leases.Up o.resources ∨ n.leases.Settled

instance (o : NodeOptions) (n : Node) : Decidable (Consistent o n) :=
  inferInstanceAs (Decidable (_ ∨ _))

/-- A gateway server or a discovery subscription that is not closed is the one that
the node knows of, or one that a pending stop took over. -/
def Node.Keeps (n : Node) (l : Lease) : Prop :=
  (l.1 = .gateway → l ∈ n.leases.released ∨ n.gatewayServer = some l ∨
    ∃ c ∈ n.calls, l ∈ c.held) ∧
  (l.1 = .discovery → l ∈ n.leases.released ∨ n.unsubscribeDiscovery = some l ∨
    ∃ c ∈ n.calls, l ∈ c.held)

def Kept (n : Node) : Prop := ∀ l ∈ n.leases.acquired, n.Keeps l

instance (n : Node) (l : Lease) : Decidable (n.Keeps l) :=
  inferInstanceAs (Decidable (_ ∧ _))

instance (n : Node) : Decidable (Kept n) :=
  inferInstanceAs (Decidable (∀ l ∈ n.leases.acquired, n.Keeps l))

/-- A start called now comes up, when everything it awaits resolves. -/
def Startable (o : NodeOptions) (n : Node) : Prop :=
  ∃ as n', Guarded (step o) Meets n (.start :: as) ∧ exec (step o) n (.start :: as) = some n' ∧
    n'.calls = [] ∧ n'.last = some .started ∧ n'.leases.Up o.resources

theorem Phase.balanced (h : Phase o n) :
    n.leases.Balanced (n.held ++ n.calls.flatMap Call.held) := by
  cases h with
  | up hc _ _ hb _ _ _ => rwa [hc, flatMap_nil, append_nil]
  | starting hc _ hp => simpa only [hc, flatMap_cons, flatMap_nil, append_nil,
      Call.held] using hp.balanced
  | releasing _ _ hb _ _ => exact hb

theorem Phase.typed (h : Phase o n) : Typed n := by
  cases h with
  | up _ _ _ _ ht _ _ => exact ht
  | starting _ _ hp => exact hp.typed
  | releasing _ _ _ ht _ => exact ht

theorem Typed.kept {l : Lease} (h : Typed n) (hl : l ∈ n.held) :
    (l.1 = .gateway → n.gatewayServer = some l) ∧
      (l.1 = .discovery → n.unsubscribeDiscovery = some l) := by
  simp only [Node.held, mem_append, mem_toList] at hl
  rcases hl with ((((hl | hl) | hl) | hl) | hl) | hl
  · exact ⟨fun _ => hl, fun hk => absurd ((h.gateway l hl).symm.trans hk) nofun⟩
  · exact ⟨fun hk => absurd ((h.discovery l hl).symm.trans hk) nofun, fun _ => hl⟩
  · obtain ⟨pair, hp⟩ := h.subscriptions l hl
    exact ⟨fun hk => absurd (hp.symm.trans hk) nofun, fun hk => absurd (hp.symm.trans hk) nofun⟩
  · have ht := h.transport l hl
    exact ⟨fun hk => absurd (ht.symm.trans hk) nofun, fun hk => absurd (ht.symm.trans hk) nofun⟩
  · have ht := h.system l hl
    exact ⟨fun hk => absurd (ht.symm.trans hk) nofun, fun hk => absurd (ht.symm.trans hk) nofun⟩
  · obtain ⟨address, hp⟩ := h.actors l hl
    exact ⟨fun hk => absurd (hp.symm.trans hk) nofun, fun hk => absurd (hp.symm.trans hk) nofun⟩

theorem Phase.kept (h : Phase o n) : Kept n := by
  intro l hl
  rcases h.balanced.accounted hl with hr | hh
  · exact ⟨fun _ => .inl hr, fun _ => .inl hr⟩
  · rcases mem_append.mp hh with hv | hc
    · have hk := h.typed.kept hv
      exact ⟨fun hg => .inr (.inl (hk.1 hg)), fun hd => .inr (.inl (hk.2 hd))⟩
    · have hc := mem_flatMap.mp hc
      exact ⟨fun _ => .inr (.inr hc), fun _ => .inr (.inr hc)⟩

theorem Phase.consistent (h : Phase o n) (hcalls : n.calls = []) : Consistent o n := by
  cases h with
  | up _ _ hl hb _ ha _ => exact .inl ⟨hl, hb.up ha⟩
  | starting hc _ _ => exact absurd (hc.symm.trans hcalls) (cons_ne_nil _ _)
  | releasing _ _ hb _ hd =>
    simp only [hcalls, flatMap_nil, append_nil] at hb hd
    have hdown := hd.mono (p := fun _ => False) (q := False)
      (by rintro _ ⟨_, hc, _⟩; exact absurd hc not_mem_nil)
      (by rintro ⟨_, hc, _⟩; exact absurd hc not_mem_nil)
    rw [hdown.held_eq_nil] at hb
    exact .inr hb.settled

theorem resolve_rest (n : Node) (c : Startup) : (n.resolve c 0).2.rest = c.rest := by
  unfold Node.resolve
  split <;> first | rfl | (split <;> rfl)

theorem Advanced.comes_up (ho : o.resources.Nodup) {len : Nat}
    (h : Advanced o true len r) : ∃ as n', Guarded (step o) Meets { r.1 with calls := r.2.toList } as ∧
      exec (step o) { r.1 with calls := r.2.toList } as = some n' ∧ n'.calls = [] ∧
      n'.last = some .started ∧ n'.leases.Up o.resources := by
  induction len using Nat.strongRecOn generalizing r with
  | ind len ih =>
    cases h with
    | started _ hl hb _ ha _ =>
      exact ⟨[], _, trivial, rfl, rfl, hl, hb.up ha⟩
    | @pending m c hrun hp hshort hsettles =>
      let m' : Node := { m with calls := [.start c] }
      have hrun' : (m'.resolve c 0).1.running = false := (m'.resolve_calls c 0).2.trans hrun
      have hlen : (m'.resolve c 0).2.rest.length < len := by rwa [resolve_rest]
      have ha := ((hp.calls [.start c]).resolves (hsettles rfl) 0).advance true ho hrun'
      obtain ⟨as, n', hg, hexec, hend⟩ := ih _ hlen ha
      have hone : ((m'.resolve c 0).1.advance o (m'.resolve c 0).2 true
          (m'.resolve c 0).2.rest).1.calls.length ≤ 1 := by
        rw [Node.advance_calls, (m'.resolve_calls c 0).1]
        exact Nat.le_refl 1
      have hstep : step o m' (.settle 0 true 0 true) = some
          { ((m'.resolve c 0).1.advance o (m'.resolve c 0).2 true (m'.resolve c 0).2.rest).1 with
            calls := ((m'.resolve c 0).1.advance o (m'.resolve c 0).2 true
              (m'.resolve c 0).2.rest).2.toList } := by
        rw [← put_zero hone]
        simp only [step, m', getElem?_cons_zero, bind_some, Call.settle, hsettles rfl,
          if_true, map_some]
      refine ⟨.settle 0 true 0 true :: as, n', (guarded_cons hstep).mpr ⟨?_, hg⟩,
        exec_cons.mpr ⟨_, hstep, hexec⟩, hend⟩
      intro d hd
      cases d with
      | start _ => exact .inl rfl
      | release _ => exact .inl rfl
    | failed hs _ _ _ => exact absurd hs Bool.noConfusion

theorem Phase.startable (ho : o.resources.Nodup) (h : Phase o n) (hcalls : n.calls = [])
    (hrun : n.running = false) : Startable o n := by
  obtain ⟨r, ha, hstart⟩ := h.begins ho hrun hcalls
  obtain ⟨as, n', hg, hexec, hend⟩ := ha.comes_up ho
  have hstep : WebNode.step o n .start = some { r.1 with calls := r.2.toList } :=
    congrArg some hstart
  exact ⟨as, n', (guarded_cons hstep).mpr ⟨.inr hcalls, hg⟩, exec_cons.mpr ⟨_, hstep, hexec⟩, hend⟩

/-- While starts are not called beside other calls, nor stops beside a start, the
node comes to rest with everything up exactly once or released exactly once, when
its starts fail before they wire a second subscription and its actor system starts
and stops. -/
theorem start_and_stop (o : NodeOptions) (ho : o.actors.Nodup) (as : List Act) (n : Node)
    (hg : Guarded (step o) Meets created as) (hrun : exec (step o) created as = some n) :
    Kept n ∧ (n.calls = [] → Consistent o n ∧ (n.running = false → Startable o n)) := by
  have hr := resources_nodup ho
  have h : Phase o n :=
    guarded_invariant (fun _ _ _ hi hs hm => hi.step hr hm hs) (phase_created o) hg hrun
  exact ⟨h.kept, fun hcalls => ⟨h.consistent hcalls, h.startable hr hcalls⟩⟩

def twoPairs : NodeOptions :=
  serveNode ⟨true, true, ["a", "b"], 2, true, true, true, false, true⟩

/-- The run in which `k` awaits of the call at `i` resolve. -/
def resolves (i k : Nat) : List Act := List.replicate k (.settle i true 0 true)

theorem exists_of_any {o : NodeOptions} (as : List Act) {P : Node → Prop} [DecidablePred P]
    (h : ((exec (step o) created as).any fun n => decide (P n)) = true) :
    ∃ n, exec (step o) created as = some n ∧ P n := by
  obtain ⟨n, hn, hp⟩ := (Option.any_eq_true _ _).mp h
  exact ⟨n, hn, of_decide_eq_true hp⟩

/-- A start whose gateway server cannot be created, rolled back. -/
theorem start_and_stop_without_server :
    ∃ n, exec (step twoPairs) created
        (.start :: resolves 0 9 ++ .settle 0 false 0 true :: resolves 0 5) = some n ∧
      Kept n ∧ Consistent twoPairs n ∧ Startable twoPairs n := by
  obtain ⟨n, hn, hcalls, hrun⟩ := exists_of_any (o := twoPairs)
    (.start :: resolves 0 9 ++ .settle 0 false 0 true :: resolves 0 5)
    (P := fun n => n.calls = [] ∧ n.running = false) (by decide +kernel)
  have h := start_and_stop twoPairs (by decide) _ n (by decide +kernel) hn
  exact ⟨n, hn, h.1, (h.2 hcalls).1, (h.2 hcalls).2 hrun⟩

/-- A stop that comes while the gateway server is being created leaves the server
up without an actor system; a second start beside the first replaces its server;
and a start that fails at its second subscription forgets the first one, one that
fails in the actor system forgets that. -/
theorem overlaps_and_failures_leak :
    (∃ n, exec (step twoPairs) created
        (.start :: resolves 0 9 ++ .stop :: resolves 1 6 ++ resolves 0 2) = some n ∧
      n.calls = [] ∧ ¬ Consistent twoPairs n) ∧
    (∃ n, exec (step twoPairs) created
        (.start :: .start :: resolves 0 12 ++ resolves 0 12) = some n ∧
      n.calls = [] ∧ ¬ Kept n) ∧
    (∃ n, exec (step twoPairs) created
        (.start :: resolves 0 6 ++ .settle 0 false 0 true :: resolves 0 3) = some n ∧
      n.calls = [] ∧ ¬ Consistent twoPairs n) ∧
    ∃ n, exec (step twoPairs) created
        (.start :: resolves 0 1 ++ .settle 0 false 0 true :: resolves 0 2) = some n ∧
      n.calls = [] ∧ ¬ Consistent twoPairs n := by
  exact ⟨exists_of_any _ (by decide +kernel), exists_of_any _ (by decide +kernel),
    exists_of_any _ (by decide +kernel), exists_of_any _ (by decide +kernel)⟩

end Runs

end ActorWeb.WebNode
