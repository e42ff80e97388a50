import ActorWeb.DirectoryRouting

namespace ActorWeb.DirectoryCluster

open List DirectoryNode DirectoryRouting

structure Packet where
  source : NodeAddress
  outgoing : Outgoing

/-- One node for every address, the packets in flight, and the messages handed
to another node so far. -/
structure Cluster where
  nodes : NodeAddress → DirectoryNode
  inFlight : List Packet
  nextMessage : Nat
  sent : List Nat

structure Settings where
  (cacheTtl maxCacheSize now : Nat)

def start (settings : NodeAddress → Settings) : Cluster :=
  { nodes := fun n => DirectoryNode.start
      { cacheTtl := (settings n).cacheTtl, maxCacheSize := (settings n).maxCacheSize
        nodeAddress := n } (settings n).now
    inFlight := []
    nextMessage := 0
    sent := [] }

inductive Action
  | local (node : NodeAddress) (event : Event)
  | enqueueMessage (node : NodeAddress) (address : ActorAddress)
  | deliver (packet : Nat)
  | lose (packet : Nat)

def isOwn : Event → Bool
  | .receive _ _ => false
  | .enqueueMessage _ _ => false
  | _ => true

def Cluster.perform (c : Cluster) (n : NodeAddress) (e : Event) : Option Cluster :=
  ((c.nodes n).handle e).map fun r =>
    { c with
      nodes := Function.update c.nodes n r.1
      inFlight := c.inFlight ++ r.2.map fun o => ⟨n, o⟩
      sent := c.sent ++ sends r.2 }

def step (c : Cluster) : Action → Option Cluster
  | .local n e => if isOwn e then c.perform n e else none
  | .enqueueMessage n a =>
    Cluster.perform { c with nextMessage := c.nextMessage + 1 } n (.enqueueMessage a c.nextMessage)
  | .deliver k =>
    (c.inFlight[k]?).bind fun p =>
      Cluster.perform { c with inFlight := c.inFlight.eraseIdx k } p.outgoing.destination
        (.receive p.source p.outgoing.message)
  | .lose k =>
    if k < c.inFlight.length then some { c with inFlight := c.inFlight.eraseIdx k } else none

/-- Every node and every packet is routed, and no message was handed on twice. -/
structure Cluster.Routed (c : Cluster) : Prop where
  nodes : ∀ n, NodeRouted n (c.nodes n)
  packets : ∀ p ∈ c.inFlight, OutgoingRouted p.outgoing
  fresh : ∀ m ∈ c.sent, m < c.nextMessage
  once : c.sent.Nodup

theorem start_cluster_routed (settings : NodeAddress → Settings) : (start settings).Routed where
  nodes := fun n => start_routed
    { cacheTtl := (settings n).cacheTtl, maxCacheSize := (settings n).maxCacheSize
      nodeAddress := n } (settings n).now
  packets := by simp [start]
  fresh := by simp [start]
  once := by simp [start]

theorem perform_routed {c t : Cluster} {n : NodeAddress} {e : Event} (h : c.Routed)
    (hm : ∀ source m, e = .receive source m → MessageRouted m)
    (harrived : ∀ source a m, e = .receive source (.remoteSend a m) → OnNode a n)
    (hfresh : ∀ a m, e = .enqueueMessage a m → m ∉ c.sent ∧ m < c.nextMessage)
    (ht : c.perform n e = some t) : t.Routed := by
  obtain ⟨⟨s', out⟩, hh, rfl⟩ := Option.map_eq_some_iff.mp ht
  have hemits := handle_emits hh
  have hsends : ∀ m ∈ sends out, sends out = [m] ∧ m ∉ c.sent ∧ m < c.nextMessage := by
    intro m hmem
    obtain ⟨hone, a, rfl⟩ := emits_sends (h.nodes n) hemits hmem harrived
    exact ⟨hone, hfresh a m rfl⟩
  refine ⟨?_, ?_, ?_, ?_⟩
  · intro n'
    change NodeRouted n' (Function.update c.nodes n s' n')
    by_cases hn : n' = n
    · subst hn
      rw [Function.update_self]
      exact handle_routed (h.nodes n') hm hh
    · rw [Function.update_of_ne hn]
      exact h.nodes n'
  · intro p hp
    obtain hp | hp := mem_append.mp hp
    · exact h.packets p hp
    · obtain ⟨o, ho, rfl⟩ := mem_map.mp hp
      exact emits_routed (h.nodes n) hemits o ho
  · intro m hmem
    obtain hmem | hmem := mem_append.mp hmem
    · exact h.fresh m hmem
    · exact (hsends m hmem).2.2
  · refine nodup_append.mpr ⟨h.once, ?_, ?_⟩
    · cases hout : sends out with
      | nil => exact nodup_nil
      | cons m rest =>
        have hone := (hsends m (hout ▸ mem_cons_self)).1
        rw [← hout, hone]
        exact nodup_singleton m
    · intro m hold m' hnew heq
      exact (hsends m' hnew).2.1 (heq ▸ hold)

theorem step_routed {c t : Cluster} {a : Action} (h : c.Routed) (ht : step c a = some t) :
    t.Routed := by
  cases a with
  | «local» n e =>
    simp only [step] at ht
    split at ht
    case isFalse => cases ht
    case isTrue hown =>
      refine perform_routed h ?_ ?_ ?_ ht
      · rintro source m rfl
        cases hown
      · rintro source a m rfl
        cases hown
      · rintro a m rfl
        cases hown
  | enqueueMessage n a =>
    have hnext : Cluster.Routed { c with nextMessage := c.nextMessage + 1 } :=
      { h with fresh := fun m hm => Nat.lt_succ_of_lt (h.fresh m hm) }
    refine perform_routed hnext (by simp) (by simp) ?_ ht
    intro a' m he
    obtain ⟨-, rfl⟩ := Event.enqueueMessage.inj he
    exact ⟨fun hm => Nat.lt_irrefl _ (h.fresh _ hm), Nat.lt_succ_self _⟩
  | deliver k =>
    obtain ⟨p, hp, ht⟩ := Option.bind_eq_some_iff.mp ht
    have hmem := mem_of_getElem? hp
    have hrest : Cluster.Routed { c with inFlight := c.inFlight.eraseIdx k } :=
      { h with packets := fun q hq => h.packets q (mem_of_mem_eraseIdx hq) }
    refine perform_routed hrest ?_ ?_ (by simp) ht
    · intro source m he
      obtain ⟨-, rfl⟩ := Event.receive.inj he
      exact (h.packets p hmem).message
    · intro source a m he
      obtain ⟨-, hmessage⟩ := Event.receive.inj he
      have hrouted := h.packets p hmem
      unfold OutgoingRouted at hrouted
      rw [hmessage] at hrouted
      exact hrouted
  | lose k =>
    simp only [step] at ht
    split at ht
    case isFalse => cases ht
    case isTrue =>
      cases ht
      exact { h with packets := fun q hq => h.packets q (mem_of_mem_eraseIdx hq) }

/-- Registry and cache entries for addresses of other than the `local` node are
located at the node segment of the address, and no message is handed on twice. -/
structure Cluster.Located (c : Cluster) : Prop where
  registry : ∀ n a e p, (c.nodes n).directory.registry.get a = some e →
    ActorAddress.parse a = some p → p.node ≠ ActorAddress.localNode → e.location = p.node
  cache : ∀ n a e p, (c.nodes n).directory.cache.get a = some e →
    ActorAddress.parse a = some p → p.node ≠ ActorAddress.localNode → e.location = p.node
  sent_once : ∀ m, c.sent.count m ≤ 1

theorem Cluster.Routed.located {c : Cluster} (h : c.Routed) : c.Located where
  registry := fun n a e p he hp hne =>
    ((h.nodes n).directory.registry a e he).onNode ⟨p, hp, rfl, hne⟩
  cache := fun n a e p he hp hne =>
    ((h.nodes n).directory.cache a e he).onNode ⟨p, hp, rfl, hne⟩
  sent_once := fun m => nodup_iff_count_le_one.mp h.once m

/-- In every run of a cluster a message is handed to another node at most once,
since every directory locates an address at the node it names. -/
theorem entries_located (settings : NodeAddress → Settings) (actions : List Action) :
    Transition.Along step (fun _ _ c => c.Located) (start settings) actions :=
  Transition.along_of_invariant (I := Cluster.Routed) (fun _ _ _ => step_routed)
    (fun _ _ _ h ht => (step_routed h ht).located) (start_cluster_routed settings) actions

end ActorWeb.DirectoryCluster
