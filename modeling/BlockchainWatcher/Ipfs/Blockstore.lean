import BlockchainWatcher.Ipfs.BlockService
import BlockchainWatcher.Ipld.EthBlock

/-! # The block store behind IPFS

A CID already held is left as it is, and a refused put leaves the store
unchanged; a run of puts keeps what was put before its first refusal. -/

namespace BlockchainWatcher.Ipfs

open Ipld

/-- Modelled from the spec: the content-addressed store behind an IPFS node,
read by CID. -/
abbrev Blockstore := GoMap Cid Bytes

def blockOf (node : IpldNode) : Block :=
  ⟨node.cid, node.rawData⟩

namespace Blockstore

/-- What a successful `Put` leaves: the node's bytes under its CID, unless the
CID is held already. -/
def insert (node : IpldNode) (store : Blockstore) : Blockstore :=
  if (store node.cid).isSome then store else Function.update store node.cid (some node.rawData)

/-- Modelled from the spec: `Put`, the `Add` of an IPFS node. `refuses` gives
the errors of the underlying store. -/
def put (refuses : IpldNode → Blockstore → Option String) (node : IpldNode)
    (store : Blockstore) : Except String Blockstore :=
  match refuses node store with
  | some err => .error err
  | none => .ok (insert node store)

def insertAll (nodes : List IpldNode) (store : Blockstore) : Blockstore :=
  nodes.foldl (fun store node => insert node store) store

/-- Puts one after the other, stopping at the first refusal: its error, if
any, and the store the puts leave. -/
def putAll (refuses : IpldNode → Blockstore → Option String) :
    List IpldNode → Blockstore → Option String × Blockstore
  | [], store => (none, store)
  | node :: rest, store =>
      match put refuses node store with
      | .error err => (some err, store)
      | .ok store => putAll refuses rest store

def Holds (store : Blockstore) (node : IpldNode) : Prop :=
  store node.cid = some node.rawData

/-- No CID of `nodes` names other bytes, in `store` or among `nodes`. -/
def Agrees (store : Blockstore) (nodes : List IpldNode) : Prop :=
  ∀ node ∈ nodes, (store node.cid = none ∨ store node.cid = some node.rawData) ∧
    ∀ node' ∈ nodes, node'.cid = node.cid → node'.rawData = node.rawData

/-- No two of `nodes` name different bytes with one CID. -/
def ContentAddressed (nodes : List IpldNode) : Prop :=
  ∀ node ∈ nodes, ∀ node' ∈ nodes, node'.cid = node.cid → node'.rawData = node.rawData

/-! ## One put -/

variable {refuses : IpldNode → Blockstore → Option String} {node : IpldNode}
  {store store' : Blockstore}

theorem put_eq_ok : put refuses node store = .ok store' ↔
    refuses node store = none ∧ store' = insert node store := by
  unfold put
  cases refuses node store <;> simp [eq_comm]

theorem insert_apply (c : Cid) :
    insert node store c = if c = node.cid ∧ store c = none then some node.rawData else store c := by
  unfold insert
  by_cases same : c = node.cid
  · subst same
    cases held : store node.cid <;> simp [held]
  · split <;> simp [same, Function.update_noteq same]

theorem included_insert : GoMap.Included store (insert node store) := by
  intro c v held
  rw [insert_apply, held]
  simp

theorem insert_of_held (held : (store node.cid).isSome) : insert node store = store := by
  simp [insert, held]

theorem isSome_insert : (insert node store node.cid).isSome := by
  rw [insert_apply]
  split <;> simp_all [Option.isSome_iff_ne_none]

theorem insert_comm {node' : IpldNode}
    (same : node'.cid = node.cid → node'.rawData = node.rawData) :
    insert node (insert node' store) = insert node' (insert node store) := by
  funext c
  simp only [insert_apply]
  by_cases first : c = node.cid <;> by_cases second : c = node'.cid <;>
    cases held : store c <;> simp_all

/-! ## Runs of puts -/

theorem insertAll_cons (nodes : List IpldNode) :
    insertAll (node :: nodes) store = insertAll nodes (insert node store) :=
  rfl

theorem insertAll_append (nodes nodes' : List IpldNode) :
    insertAll (nodes ++ nodes') store = insertAll nodes' (insertAll nodes store) :=
  List.foldl_append _ _ _ _

theorem included_insertAll (nodes : List IpldNode) :
    GoMap.Included store (insertAll nodes store) := by
  induction nodes generalizing store with
  | nil => exact fun _ _ => id
  | cons node nodes induction =>
      exact fun c v held => induction c v (included_insert c v held)

theorem isSome_insertAll {nodes : List IpldNode} (member : node ∈ nodes) :
    (insertAll nodes store node.cid).isSome := by
  induction nodes generalizing store with
  | nil => simp at member
  | cons first nodes induction =>
      rcases List.mem_cons.mp member with rfl | later
      · obtain ⟨v, held⟩ :=
          Option.isSome_iff_exists.mp (isSome_insert : (insert node store node.cid).isSome)
        rw [insertAll_cons, included_insertAll _ _ v held]
        rfl
      · exact induction later

theorem insertAll_of_held {nodes : List IpldNode}
    (held : ∀ node ∈ nodes, (store node.cid).isSome) : insertAll nodes store = store := by
  induction nodes with
  | nil => rfl
  | cons first nodes induction =>
      rw [insertAll_cons, insert_of_held (held first (List.mem_cons_self _ _))]
      exact induction fun node member => held node (List.mem_cons_of_mem _ member)

theorem insertAll_insertAll (nodes : List IpldNode) :
    insertAll nodes (insertAll nodes store) = insertAll nodes store :=
  insertAll_of_held fun _ member => isSome_insertAll member

theorem insertAll_take (nodes : List IpldNode) (k : Nat) :
    insertAll nodes (insertAll (nodes.take k) store) = insertAll nodes store :=
  calc insertAll nodes (insertAll (nodes.take k) store)
      = insertAll (nodes.take k ++ nodes.drop k) (insertAll (nodes.take k) store) := by
        rw [List.take_append_drop]
    _ = insertAll (nodes.drop k) (insertAll (nodes.take k) (insertAll (nodes.take k) store)) :=
        insertAll_append _ _
    _ = insertAll nodes store := by
        rw [insertAll_insertAll, ← insertAll_append, List.take_append_drop]

theorem ContentAddressed.of_subset {nodes nodes' : List IpldNode}
    (coherent : ContentAddressed nodes') (subset : nodes ⊆ nodes') : ContentAddressed nodes :=
  fun node member node' member' => coherent node (subset member) node' (subset member')

theorem insertAll_perm {nodes nodes' : List IpldNode} (perm : nodes.Perm nodes')
    (coherent : ContentAddressed nodes) : insertAll nodes store = insertAll nodes' store := by
  induction perm generalizing store with
  | nil => rfl
  | cons node _ induction =>
      exact induction (coherent.of_subset (List.subset_cons_self _ _))
  | swap node node' nodes =>
      rw [insertAll_cons, insertAll_cons, insertAll_cons, insertAll_cons,
        insert_comm (coherent node (by simp) node' (by simp))]
  | trans first _ induction induction' =>
      exact (induction coherent).trans (induction' (coherent.of_subset first.symm.subset))

theorem putAll_eq_none {nodes : List IpldNode} (run : putAll refuses nodes store = (none, store')) :
    store' = insertAll nodes store := by
  induction nodes generalizing store with
  | nil => exact (Prod.mk.inj run).2.symm
  | cons node nodes induction =>
      unfold putAll at run
      cases putting : put refuses node store with
      | error err => simp [putting] at run
      | ok stored =>
          rw [putting] at run
          rw [induction run, (put_eq_ok.mp putting).2]
          rfl

theorem putAll_prefix (refuses : IpldNode → Blockstore → Option String) (nodes : List IpldNode)
    (store : Blockstore) :
    ∃ k ≤ nodes.length, (putAll refuses nodes store).2 = insertAll (nodes.take k) store ∧
      ((putAll refuses nodes store).1 = none → k = nodes.length) := by
  induction nodes generalizing store with
  | nil => exact ⟨0, le_rfl, rfl, fun _ => rfl⟩
  | cons node nodes induction =>
      unfold putAll
      cases putting : put refuses node store with
      | error err => exact ⟨0, Nat.zero_le _, rfl, by simp⟩
      | ok stored =>
          obtain ⟨k, bound, left, complete⟩ := induction stored
          refine ⟨k + 1, by simpa using bound, ?_, fun ended => by simp [complete ended]⟩
          rw [left, (put_eq_ok.mp putting).2]
          rfl

/-! ## What the store holds -/

theorem Holds.included {store' : Blockstore} (holds : Holds store node)
    (included : GoMap.Included store store') : Holds store' node :=
  included _ _ holds

theorem Agrees.insert {nodes : List IpldNode} (agrees : Agrees store nodes)
    (member : node ∈ nodes) :
    Agrees (Blockstore.insert node store) nodes ∧ Holds (Blockstore.insert node store) node := by
  have clash : ∀ other ∈ nodes, other.cid = node.cid → other.rawData = node.rawData :=
    (agrees node member).2
  constructor
  · intro other member'
    refine ⟨?_, (agrees other member').2⟩
    rw [insert_apply]
    split
    · rename_i fresh
      exact .inr (by rw [clash other member' fresh.1])
    · exact (agrees other member').1
  · unfold Holds
    rw [insert_apply]
    split
    · rfl
    · rename_i held
      simp only [true_and, not_not] at held
      rcases (agrees node member).1 with absent | present
      · exact absurd absent held
      · exact present

theorem Agrees.insertAll {nodes inserted : List IpldNode} (agrees : Agrees store nodes)
    (sublist : inserted ⊆ nodes) :
    Agrees (Blockstore.insertAll inserted store) nodes ∧
      ∀ node ∈ inserted, Holds (Blockstore.insertAll inserted store) node := by
  induction inserted generalizing store with
  | nil => exact ⟨agrees, by simp⟩
  | cons first rest induction =>
      obtain ⟨agrees', holds⟩ := agrees.insert (sublist (List.mem_cons_self _ _))
      obtain ⟨agrees'', holdsRest⟩ :=
        induction agrees' fun _ member => sublist (List.mem_cons_of_mem _ member)
      refine ⟨agrees'', fun node member => ?_⟩
      rcases List.mem_cons.mp member with rfl | later
      · exact holds.included (included_insertAll _)
      · exact holdsRest node later

theorem insertAll_holds {nodes : List IpldNode} (agrees : Agrees store nodes) :
    ∀ node ∈ nodes, Holds (insertAll nodes store) node :=
  (agrees.insertAll fun _ => id).2

end Blockstore

/-! ## Serving a store -/

/-- A block service serves `store` when it answers from it and answers every
CID the store holds: `GetBlock` finds each held block, and `GetBlocks` sends one
block per CID when all are held. -/
structure BlockService.Serves (service : BlockService) (store : Blockstore) : Prop where
  faithful : service.Faithful fun c => (store c).getD []
  getBlock : ∀ c, (store c).isSome → ∃ block, service.getBlock c = .ok block
  getBlocks : ∀ cs, (∀ c ∈ cs, (store c).isSome) → (service.getBlocks cs).length = cs.length

/-- The block service over a store: the block of each held CID, in the order
asked. -/
def Blockstore.blockService (store : Blockstore) : BlockService where
  getBlock c := match store c with
    | some rawData => .ok ⟨c, rawData⟩
    | none => .error "blockstore: block not found"
  getBlocks cs := cs.filterMap fun c => (store c).map fun rawData => ⟨c, rawData⟩

theorem Blockstore.serves_blockService (store : Blockstore) : store.blockService.Serves store where
  faithful := ⟨fun c block found => by
      cases held : store c <;> simp [blockService, held] at found ⊢
      exact found.symm,
    fun cs => by
      refine List.Sublist.subperm ?_
      induction cs with
      | nil => exact .slnil
      | cons c cs induction =>
          cases held : store c with
          | none => simpa [blockService, held] using induction.cons _
          | some rawData => simpa [blockService, held] using induction.cons₂ ⟨c, rawData⟩⟩
  getBlock c held := by
    obtain ⟨rawData, found⟩ := Option.isSome_iff_exists.mp held
    exact ⟨⟨c, rawData⟩, by simp [blockService, found]⟩
  getBlocks cs held := by
    induction cs with
    | nil => rfl
    | cons c cs induction =>
        obtain ⟨rawData, found⟩ := Option.isSome_iff_exists.mp (held c (List.mem_cons_self _ _))
        simpa [blockService, found] using
          induction fun c' member => held c' (List.mem_cons_of_mem _ member)

/-! ## Fetching from a served store -/

section Fetching

variable {NodeType : Type} {codec : FetchCodec NodeType} {service : BlockService}
  {store : Blockstore}

theorem fetchBlockModel_of_serves (serves : service.Serves store) {text : String}
    {node : IpldNode} (decoded : codec.decode text = .ok node.cid)
    (holds : Blockstore.Holds store node) :
    fetchBlockModel codec service text = .ok (blockModel codec (blockOf node)) := by
  unfold Blockstore.Holds at holds
  obtain ⟨block, found⟩ := serves.getBlock node.cid (by simp [holds])
  have stored := serves.faithful.getBlock node.cid block found
  simp [fetchBlockModel, decoded, found, stored, holds, blockOf]

theorem fetchBlockModels_of_serves (serves : service.Serves store) (cidString : Cid → String)
    {nodes : List IpldNode} (decoded : ∀ node ∈ nodes, codec.decode (cidString node.cid) = .ok node.cid)
    (holds : ∀ node ∈ nodes, Blockstore.Holds store node) :
    ∃ models, fetchBlockModels codec service (nodes.map fun node => cidString node.cid) =
        (models, none) ∧
      models.Perm (nodes.map fun node => blockModel codec (blockOf node)) := by
  have run : (nodes.map fun node => cidString node.cid).mapM' codec.decode =
      .ok (nodes.map IpldNode.cid) :=
    mapM'_map_eq_ok decoded
  have held : ∀ c ∈ nodes.map IpldNode.cid, (store c).isSome := by
    simp only [List.mem_map]
    rintro _ ⟨node, member, rfl⟩
    simp [show store node.cid = _ from holds node member]
  have counted := serves.getBlocks _ held
  have complete :=
    (serves.faithful.getBlocks (nodes.map IpldNode.cid)).perm_of_length_le (by simp [counted])
  have stored : (nodes.map IpldNode.cid).map (fun c => (⟨c, (store c).getD []⟩ : Block)) =
      nodes.map blockOf := by
    simp only [List.map_map]
    exact List.map_congr_left fun node member => by
      simp [blockOf, show store node.cid = _ from holds node member]
  rw [stored] at complete
  refine ⟨(service.getBlocks (nodes.map IpldNode.cid)).map (blockModel codec),
    by simp [fetchBlockModels, run, fetchBatch, counted], ?_⟩
  simpa [List.map_map] using complete.map (blockModel codec)

end Fetching

end BlockchainWatcher.Ipfs
