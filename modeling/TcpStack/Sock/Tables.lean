import TcpStack.Sock.TableOps

/-!
# The tables as maps

What `tcp_hash` and `tcp_unhash` keep true of the established table and the
listen table, and what the lookups find in them.

A table run is any history of the two functions on a stack whose socks may be
allocated and rewritten at any time, as long as the state and the 4-tuple of a
hashed sock stay as they are. Along every such run the established table is a
finite map from 4-tuples to socks (`TableRun.established_is_map`), and the
lookup of a packet is exact (`TableRun.lookup_exact`).
-/

set_option autoImplicit false

namespace TcpStack

open Lib

/-! ## Runs -/

/-- The histories of `tcp_hash` and `tcp_unhash`. Socks are allocated with any
contents, `base` being the number of references they come with, and rewritten
at any time, but not in state or 4-tuple while they are hashed. The list has the
listeners hashed and not yet unhashed, the most recent one first. -/
inductive TableRun (base : SockPtr → ℤ) : Stack → List SockPtr → Prop where
  | init : TableRun base initTcpStack []
  | alloc {s : Stack} {recent : List SockPtr} {tsk : SockPtr} {contents : TcpSock} :
      TableRun base s recent → tsk ≠ 0 → tsk ∉ s.allocated → contents.refCnt = base tsk →
        TableRun base ((allocTcpSock s tsk).modify tsk fun _ => contents) recent
  | change {s : Stack} {recent : List SockPtr} {tsk : SockPtr} {contents : TcpSock} :
      TableRun base s recent → contents.refCnt = (s.sock tsk).refCnt →
      (s.Hashed tsk → contents.state = (s.sock tsk).state ∧
        contents.tuple = (s.sock tsk).tuple) →
        TableRun base (s.modify tsk fun _ => contents) recent
  | hash {s later : Stack} {recent : List SockPtr} {tsk : SockPtr} {result : ℤ} :
      TableRun base s recent → tsk ∈ s.allocated → ¬ s.Released tsk → ¬ s.Hashed tsk →
      tcpHash s tsk = .ok (result, later) →
        TableRun base later (if (s.sock tsk).state = .listen then tsk :: recent else recent)
  | unhash {s later : Stack} {recent : List SockPtr} {tsk : SockPtr} :
      TableRun base s recent → s.Hashed tsk → tcpUnhash s tsk = .ok later →
        TableRun base later (recent.erase tsk)

/-- What holds along every table run. -/
structure TableInv (base : SockPtr → ℤ) (s : Stack) (recent : List SockPtr) (socks : Sequences) :
    Prop where
  shape : s.Shape socks
  /-- A sock sits in the bucket of its 4-tuple. -/
  placed : ∀ bucket tsk, tsk ∈ socks (.establishedTable bucket) → (s.sock tsk).bucket = bucket
  /-- No two socks of the established table have the same 4-tuple. -/
  distinct : ∀ bucket first second, first ∈ socks (.establishedTable bucket) →
    second ∈ socks (.establishedTable bucket) →
      (s.sock first).tuple = (s.sock second).tuple → first = second
  /-- A bucket of the listen table has the listeners of its ports, the most
  recent one first. -/
  listening : ∀ bucket, socks (.listenTable bucket) =
    recent.filter fun tsk => portBucket (s.sock tsk).skSport = bucket
  unbound : ∀ bucket, socks (.bindTable bucket) = []
  refs : ∀ tsk ∈ s.allocated, (s.Hashed tsk → (s.sock tsk).refCnt = base tsk + 1) ∧
    (¬ s.Hashed tsk → (s.sock tsk).refCnt = base tsk)

namespace TableInv

variable {base : SockPtr → ℤ} {s : Stack} {recent : List SockPtr} {socks : Sequences}
  {tsk : SockPtr}

theorem mem_recent_iff (inv : TableInv base s recent socks) :
    tsk ∈ recent ↔ tsk ∈ socks (.listenTable (portBucket (s.sock tsk).skSport)) := by
  simp [inv.listening]

theorem hashed_of_established (inv : TableInv base s recent socks) {bucket : U8}
    (inside : tsk ∈ socks (.establishedTable bucket)) : s.Hashed tsk :=
  inv.shape.hashed_iff.mpr ⟨.establishedTable bucket, trivial, rfl, inside⟩

theorem hashed_of_recent (inv : TableInv base s recent socks) (inside : tsk ∈ recent) :
    s.Hashed tsk :=
  inv.shape.hashed_iff.mpr
    ⟨.listenTable (portBucket (s.sock tsk).skSport), trivial, rfl, inv.mem_recent_iff.mp inside⟩

/-- Who is hashed depends on the buckets only. -/
theorem hashed_congr (inv : TableInv base s recent socks) {later : Stack} {moved : Sequences}
    (shape : later.Shape moved)
    (established : ∀ bucket, moved (.establishedTable bucket) = socks (.establishedTable bucket))
    (listen : ∀ bucket, moved (.listenTable bucket) = socks (.listenTable bucket))
    (other : SockPtr) : later.Hashed other ↔ s.Hashed other := by
  simp only [Stack.Hashed, Stack.InEstablished, Stack.InListen, shape.established_entries,
    shape.listen_entries, inv.shape.established_entries, inv.shape.listen_entries, established,
    listen]

/-- The invariant only looks at the keys of hashed socks and at reference
counts. -/
theorem rewrite (inv : TableInv base s recent socks) {later : Stack} {moved : Sequences}
    (shape : later.Shape moved)
    (established : ∀ bucket, moved (.establishedTable bucket) = socks (.establishedTable bucket))
    (listen : ∀ bucket, moved (.listenTable bucket) = socks (.listenTable bucket))
    (bind : ∀ bucket, moved (.bindTable bucket) = socks (.bindTable bucket))
    (keys : ∀ other, s.Hashed other → (later.sock other).tuple = (s.sock other).tuple)
    (refs : ∀ other ∈ later.allocated,
      (s.Hashed other → (later.sock other).refCnt = base other + 1) ∧
        (¬ s.Hashed other → (later.sock other).refCnt = base other)) :
    TableInv base later recent moved := by
  constructor
  · exact shape
  · intro bucket other inside
    rw [established] at inside
    rw [TcpSock.bucket_of_tuple (keys other (inv.hashed_of_established inside))]
    exact inv.placed bucket other inside
  · intro bucket first second inFirst inSecond same
    rw [established] at inFirst inSecond
    rw [keys first (inv.hashed_of_established inFirst),
      keys second (inv.hashed_of_established inSecond)] at same
    exact inv.distinct bucket first second inFirst inSecond same
  · intro bucket
    rw [listen, inv.listening]
    apply List.filter_congr
    intro other inside
    rw [TcpSock.skSport_of_tuple (keys other (inv.hashed_of_recent inside))]
  · intro bucket
    rw [bind, inv.unbound]
  · intro other member
    rw [inv.hashed_congr shape established listen]
    exact refs other member

/-- A sock just allocated is not hashed. -/
theorem not_hashed_alloc (inv : TableInv base s recent socks) {contents : TcpSock}
    (notNull : tsk ≠ 0) (absent : tsk ∉ s.allocated) :
    ¬ ((allocTcpSock s tsk).modify tsk fun _ => contents).Hashed tsk := by
  have shape := (inv.shape.alloc notNull absent).modify tsk fun _ => contents
  rw [inv.hashed_congr shape (by simp) (by simp)]
  exact fun hashed => absent (inv.shape.allocated_of_hashed hashed)

theorem alloc (inv : TableInv base s recent socks) {contents : TcpSock} (notNull : tsk ≠ 0)
    (absent : tsk ∉ s.allocated) (refCnt : contents.refCnt = base tsk) :
    TableInv base ((allocTcpSock s tsk).modify tsk fun _ => contents) recent
      (Function.update (Function.update socks (.listenQueue tsk) []) (.acceptQueue tsk) []) := by
  have unhashed : ¬ s.Hashed tsk := fun hashed => absent (inv.shape.allocated_of_hashed hashed)
  have same : ∀ other, other ≠ tsk →
      ((allocTcpSock s tsk).modify tsk fun _ => contents).sock other = s.sock other := by
    intro other different
    simp [allocTcpSock, different]
  refine inv.rewrite ((inv.shape.alloc notNull absent).modify tsk _) ?_ ?_ ?_ ?_ ?_
  · intro bucket; simp
  · intro bucket; simp
  · intro bucket; simp
  · intro other hashed
    rw [same other fun equal => unhashed (equal ▸ hashed)]
  · intro other member
    by_cases equal : other = tsk
    · subst equal
      simp [unhashed, refCnt]
    · rw [same other equal]
      exact inv.refs other ((List.mem_cons.mp member).resolve_left equal)

theorem change (inv : TableInv base s recent socks) {contents : TcpSock}
    (refCnt : contents.refCnt = (s.sock tsk).refCnt)
    (keeps : s.Hashed tsk → contents.state = (s.sock tsk).state ∧
      contents.tuple = (s.sock tsk).tuple) :
    TableInv base (s.modify tsk fun _ => contents) recent socks := by
  refine inv.rewrite (inv.shape.modify tsk _) (fun _ => rfl) (fun _ => rfl) (fun _ => rfl) ?_ ?_
  · intro other hashed
    by_cases equal : other = tsk
    · subst equal
      rw [Stack.modify_sock_self]
      exact (keeps hashed).2
    · rw [Stack.modify_sock_of_ne _ _ equal]
  · intro other member
    by_cases equal : other = tsk
    · subst equal
      rw [Stack.modify_sock_self, refCnt]
      exact inv.refs other member
    · rw [Stack.modify_sock_of_ne _ _ equal]
      exact inv.refs other member

section Link

variable {links : Heap Node} {head : Node} (inv : TableInv base s recent socks)
include inv

/-- Linking a sock accounts for the reference it takes. -/
theorem refs_link
    (shape : ({ s with links := links } : Stack).Shape
      (Function.update socks head (tsk :: socks head)))
    (isHead : s.IsHead head) (slot : head.slot = Node.hashList) (unhashed : ¬ s.Hashed tsk) :
    ∀ other ∈ s.allocated,
      ((tcpSockIncRefCnt { s with links := links } tsk).Hashed other →
        ((tcpSockIncRefCnt { s with links := links } tsk).sock other).refCnt = base other + 1) ∧
      (¬ (tcpSockIncRefCnt { s with links := links } tsk).Hashed other →
        ((tcpSockIncRefCnt { s with links := links } tsk).sock other).refCnt = base other) := by
  intro other member
  have counted : (tcpSockIncRefCnt { s with links := links } tsk).Shape
      (Function.update socks head (tsk :: socks head)) := shape.congr rfl rfl
  have hashed := inv.shape.hashed_link counted rfl isHead slot other
  have before := inv.refs other member
  rw [hashed, tcpSockIncRefCnt_sock]
  by_cases equal : other = tsk
  · subst equal
    simp [before.2 unhashed]
  · simpa [equal] using before

/-- Unlinking a sock gives back the reference it had. -/
theorem refs_unlink
    (shape : ({ s with links := links } : Stack).Shape
      (Function.update socks head ((socks head).erase tsk)))
    (isHead : s.IsHead head) (slot : head.slot = Node.hashList) (inside : tsk ∈ socks head) :
    ∀ other ∈ s.allocated,
      ((freeTcpSock { s with links := links } tsk).Hashed other →
        ((freeTcpSock { s with links := links } tsk).sock other).refCnt = base other + 1) ∧
      (¬ (freeTcpSock { s with links := links } tsk).Hashed other →
        ((freeTcpSock { s with links := links } tsk).sock other).refCnt = base other) := by
  intro other member
  have freed := shape.congr (freeTcpSock_links _ tsk) (freeTcpSock_allocated _ tsk)
  have hashed :=
    inv.shape.hashed_unlink freed (freeTcpSock_allocated _ tsk) isHead slot inside other
  have before := inv.refs other member
  rw [hashed, freeTcpSock_sock]
  by_cases equal : other = tsk
  · subst equal
    have was : s.Hashed other := inv.shape.hashed_iff.mpr ⟨head, isHead, slot, inside⟩
    simp [before.1 was]
  · simpa [equal] using before

theorem hash_listen {bucket : U8} (bucketEq : bucket = portBucket (s.sock tsk).skSport)
    (shape : ({ s with links := links } : Stack).Shape
      (Function.update socks (.listenTable bucket) (tsk :: socks (.listenTable bucket))))
    (unhashed : ¬ s.Hashed tsk) :
    TableInv base (tcpSockIncRefCnt { s with links := links } tsk) (tsk :: recent)
      (Function.update socks (.listenTable bucket) (tsk :: socks (.listenTable bucket))) where
  shape := shape.modify tsk _
  placed := by
    intro place other inside
    rw [Function.update_of_ne (by simp)] at inside
    rw [TcpSock.bucket_of_tuple (tcpSockIncRefCnt_tuple _ tsk other)]
    exact inv.placed place other inside
  distinct := by
    intro place first second inFirst inSecond same
    rw [Function.update_of_ne (by simp)] at inFirst inSecond
    rw [tcpSockIncRefCnt_tuple, tcpSockIncRefCnt_tuple] at same
    exact inv.distinct place first second inFirst inSecond same
  listening := by
    intro place
    have ports : ∀ other, ((tcpSockIncRefCnt { s with links := links } tsk).sock other).skSport =
        (s.sock other).skSport := fun other =>
      TcpSock.skSport_of_tuple (tcpSockIncRefCnt_tuple _ tsk other)
    simp only [ports, List.filter_cons, ← bucketEq]
    by_cases here : place = bucket
    · subst here
      simp [inv.listening]
    · rw [Function.update_of_ne (by simpa using here), inv.listening]
      simp [Ne.symm here]
  unbound := by
    intro place
    rw [Function.update_of_ne (by simp), inv.unbound]
  refs := inv.refs_link shape (s.isHead_listen bucket) rfl unhashed

theorem hash_established
    (shape : ({ s with links := links } : Stack).Shape
      (Function.update socks (.establishedTable (s.sock tsk).bucket)
        (tsk :: socks (.establishedTable (s.sock tsk).bucket))))
    (unhashed : ¬ s.Hashed tsk)
    (free : ∀ other ∈ socks (.establishedTable (s.sock tsk).bucket),
      (s.sock other).tuple ≠ (s.sock tsk).tuple) :
    TableInv base (tcpSockIncRefCnt { s with links := links } tsk) recent
      (Function.update socks (.establishedTable (s.sock tsk).bucket)
        (tsk :: socks (.establishedTable (s.sock tsk).bucket))) where
  shape := shape.modify tsk _
  placed := by
    intro place other inside
    rw [TcpSock.bucket_of_tuple (tcpSockIncRefCnt_tuple _ tsk other)]
    rcases Sequences.mem_front.mp inside with ⟨here, rfl⟩ | inside
    · cases here
      rfl
    · exact inv.placed place other inside
  distinct := by
    intro place first second inFirst inSecond same
    rw [tcpSockIncRefCnt_tuple, tcpSockIncRefCnt_tuple] at same
    rcases Sequences.mem_front.mp inFirst with ⟨here, rfl⟩ | wasFirst <;>
      rcases Sequences.mem_front.mp inSecond with ⟨there, rfl⟩ | wasSecond
    · rfl
    · cases here
      exact absurd same.symm (free second wasSecond)
    · cases there
      exact absurd same (free first wasFirst)
    · exact inv.distinct place first second wasFirst wasSecond same
  listening := by
    intro place
    rw [Function.update_of_ne (by simp), inv.listening]
    apply List.filter_congr
    intro other _
    rw [TcpSock.skSport_of_tuple (tcpSockIncRefCnt_tuple _ tsk other)]
  unbound := by
    intro place
    rw [Function.update_of_ne (by simp), inv.unbound]
  refs := inv.refs_link shape (s.isHead_established _) rfl unhashed

theorem unhash_established {bucket : U8} (inside : tsk ∈ socks (.establishedTable bucket))
    (shape : ({ s with links := links } : Stack).Shape
      (Function.update socks (.establishedTable bucket)
        ((socks (.establishedTable bucket)).erase tsk))) :
    TableInv base (freeTcpSock { s with links := links } tsk) (recent.erase tsk)
      (Function.update socks (.establishedTable bucket)
        ((socks (.establishedTable bucket)).erase tsk)) where
  shape := shape.congr (freeTcpSock_links _ tsk) (freeTcpSock_allocated _ tsk)
  placed := by
    intro place other member
    rw [TcpSock.bucket_of_tuple (freeTcpSock_tuple _ tsk other)]
    exact inv.placed place other (Sequences.mem_of_erase member)
  distinct := by
    intro place first second inFirst inSecond same
    rw [freeTcpSock_tuple, freeTcpSock_tuple] at same
    exact inv.distinct place first second (Sequences.mem_of_erase inFirst)
      (Sequences.mem_of_erase inSecond) same
  listening := by
    intro place
    -- a sock of the established table is not linked as a listener as well
    have notRecent : tsk ∉ recent := by
      intro member
      exact inv.shape.not_listen_of_established inside (inv.mem_recent_iff.mp member)
    rw [Function.update_of_ne (by simp), inv.listening, List.erase_of_not_mem notRecent]
    apply List.filter_congr
    intro other _
    rw [TcpSock.skSport_of_tuple (freeTcpSock_tuple _ tsk other)]
  unbound := by
    intro place
    rw [Function.update_of_ne (by simp), inv.unbound]
  refs := by
    rw [freeTcpSock_allocated]
    exact inv.refs_unlink shape (s.isHead_established bucket) rfl inside

theorem unhash_listen {bucket : U8} (inside : tsk ∈ socks (.listenTable bucket))
    (shape : ({ s with links := links } : Stack).Shape
      (Function.update socks (.listenTable bucket) ((socks (.listenTable bucket)).erase tsk))) :
    TableInv base (freeTcpSock { s with links := links } tsk) (recent.erase tsk)
      (Function.update socks (.listenTable bucket)
        ((socks (.listenTable bucket)).erase tsk)) where
  shape := shape.congr (freeTcpSock_links _ tsk) (freeTcpSock_allocated _ tsk)
  placed := by
    intro place other member
    rw [Function.update_of_ne (by simp)] at member
    rw [TcpSock.bucket_of_tuple (freeTcpSock_tuple _ tsk other)]
    exact inv.placed place other member
  distinct := by
    intro place first second inFirst inSecond same
    rw [Function.update_of_ne (by simp)] at inFirst inSecond
    rw [freeTcpSock_tuple, freeTcpSock_tuple] at same
    exact inv.distinct place first second inFirst inSecond same
  listening := by
    intro place
    have ports : ∀ other, ((freeTcpSock { s with links := links } tsk).sock other).skSport =
        (s.sock other).skSport := fun other =>
      TcpSock.skSport_of_tuple (freeTcpSock_tuple _ tsk other)
    have home : portBucket (s.sock tsk).skSport = bucket := by
      rw [inv.listening] at inside
      simpa using (List.mem_filter.mp inside).2
    simp only [ports]
    by_cases here : place = bucket
    · subst here
      rw [Function.update_self, inv.listening, List.erase_filter]
    · rw [Function.update_of_ne (by simpa using here), inv.listening, ← List.erase_filter,
        List.erase_of_not_mem]
      simp [home, Ne.symm here]
  unbound := by
    intro place
    rw [Function.update_of_ne (by simp), inv.unbound]
  refs := by
    rw [freeTcpSock_allocated]
    exact inv.refs_unlink shape (s.isHead_listen bucket) rfl inside

end Link

/-- One call of `tcp_hash`. -/
theorem hash (inv : TableInv base s recent socks) (member : tsk ∈ s.allocated)
    (unhashed : ¬ s.Hashed tsk) {result : ℤ} {later : Stack}
    (call : tcpHash s tsk = .ok (result, later)) :
    ∃ moved, TableInv base later
      (if (s.sock tsk).state = .listen then tsk :: recent else recent) moved := by
  by_cases listening : (s.sock tsk).state = .listen
  · obtain ⟨links, done, shape, _⟩ := inv.shape.tcpHash_listen member unhashed listening
    rw [done] at call
    cases call
    rw [if_pos listening]
    exact ⟨_, inv.hash_listen rfl shape unhashed⟩
  · rw [if_neg listening]
    by_cases closed : (s.sock tsk).state = .closed
    · simp only [tcpHash, closed, if_true, pure, Except.pure] at call
      cases call
      exact ⟨socks, inv⟩
    · by_cases free : ∀ other ∈ socks (.establishedTable (s.sock tsk).bucket),
          (s.sock other).tuple ≠ (s.sock tsk).tuple
      · obtain ⟨links, done, shape, _⟩ :=
          inv.shape.tcpHash_free member unhashed closed listening free
        rw [done] at call
        cases call
        exact ⟨_, inv.hash_established shape unhashed free⟩
      · push Not at free
        obtain ⟨other, inside, same⟩ := free
        rw [inv.shape.tcpHash_taken closed listening inside same] at call
        cases call
        exact ⟨socks, inv⟩

/-- One call of `tcp_unhash` on a hashed sock. -/
theorem unhash (inv : TableInv base s recent socks) (hashed : s.Hashed tsk) :
    ∃ later moved, tcpUnhash s tsk = .ok later ∧
      TableInv base later (recent.erase tsk) moved := by
  rcases hashed with ⟨bucket, inside⟩ | ⟨bucket, inside⟩
  · rw [inv.shape.established_entries] at inside
    obtain ⟨links, done, shape, _⟩ :=
      inv.shape.tcpUnhash_linked (s.isHead_established bucket) rfl inside
    exact ⟨_, _, done, inv.unhash_established inside shape⟩
  · rw [inv.shape.listen_entries] at inside
    obtain ⟨links, done, shape, _⟩ := inv.shape.tcpUnhash_linked (s.isHead_listen bucket) rfl inside
    exact ⟨_, _, done, inv.unhash_listen inside shape⟩

end TableInv

/-- The invariant holds along every table run. -/
theorem TableRun.inv {base : SockPtr → ℤ} {s : Stack} {recent : List SockPtr}
    (run : TableRun base s recent) : ∃ socks, TableInv base s recent socks := by
  induction run with
  | init =>
      refine ⟨fun _ => [], initTcpStack_shape, ?_, ?_, ?_, ?_, ?_⟩
      · simp
      · simp
      · simp
      · simp
      · simp [initTcpStack]
  | alloc _ notNull absent refCnt ih =>
      obtain ⟨socks, inv⟩ := ih
      exact ⟨_, inv.alloc notNull absent refCnt⟩
  | change _ refCnt keeps ih =>
      obtain ⟨socks, inv⟩ := ih
      exact ⟨_, inv.change refCnt keeps⟩
  | hash _ member _ unhashed call ih =>
      obtain ⟨socks, inv⟩ := ih
      exact inv.hash member unhashed call
  | unhash _ hashed call ih =>
      obtain ⟨socks, inv⟩ := ih
      obtain ⟨later, moved, done, laterInv⟩ := inv.unhash hashed
      rw [done] at call
      cases call
      exact ⟨moved, laterInv⟩

/-! ## The established table -/

namespace TableInv

variable {base : SockPtr → ℤ} {s : Stack} {recent : List SockPtr} {socks : Sequences}
  {tsk : SockPtr}

/-- A sock of the established table is in the bucket of any 4-tuple it has. -/
theorem mem_bucket (inv : TableInv base s recent socks) (inside : s.InEstablished tsk)
    {saddr daddr : U32} {sport dport : U16}
    (tuple : (s.sock tsk).tuple = (saddr, daddr, sport, dport)) :
    tsk ∈ socks (.establishedTable (tcpHashFunction saddr daddr sport dport)) := by
  obtain ⟨bucket, member⟩ := inside
  rw [inv.shape.established_entries] at member
  rw [← TcpSock.bucket_eq tuple, inv.placed bucket tsk member]
  exact member

theorem established_of_mem (inv : TableInv base s recent socks) {bucket : U8}
    (member : tsk ∈ socks (.establishedTable bucket)) : s.InEstablished tsk :=
  ⟨bucket, by rwa [inv.shape.established_entries]⟩

/-- Two socks of the established table with the same 4-tuple are the same. -/
theorem established_unique (inv : TableInv base s recent socks) {first second : SockPtr}
    (inFirst : s.InEstablished first) (inSecond : s.InEstablished second)
    (same : (s.sock first).tuple = (s.sock second).tuple) : first = second :=
  inv.distinct _ first second (inv.mem_bucket inFirst rfl) (inv.mem_bucket inSecond same.symm) same

theorem ne_null_of_established (inv : TableInv base s recent socks)
    (inside : s.InEstablished tsk) : tsk ≠ 0 :=
  inv.shape.ne_null (inv.shape.allocated_of_hashed (.inl inside))

/-- The lookup finds the sock with the 4-tuple. -/
theorem lookupEstablished_of_mem (inv : TableInv base s recent socks)
    (inside : s.InEstablished tsk) {saddr daddr : U32} {sport dport : U16}
    (tuple : (s.sock tsk).tuple = (saddr, daddr, sport, dport)) :
    tcpSockLookupEstablished s saddr daddr sport dport = .ok tsk := by
  have member := inv.mem_bucket inside rfl
  exact inv.shape.lookupEstablished_of_unique tuple member fun other here same =>
    inv.distinct _ other tsk here member same

/-- The lookup finds nothing when no sock has the 4-tuple. -/
theorem lookupEstablished_of_not_mem (inv : TableInv base s recent socks)
    {saddr daddr : U32} {sport dport : U16}
    (free : ∀ tsk, s.InEstablished tsk → (s.sock tsk).tuple ≠ (saddr, daddr, sport, dport)) :
    tcpSockLookupEstablished s saddr daddr sport dport = .ok 0 := by
  rw [inv.shape.lookupEstablished_eq]
  have missing : (socks (.establishedTable (tcpHashFunction saddr daddr sport dport))).find?
      (fun tsk => (s.sock tsk).hasTuple saddr daddr sport dport) = none := by
    rw [List.find?_eq_none]
    intro tsk member taken
    exact free tsk (inv.established_of_mem member) (((s.sock tsk).hasTuple_iff _ _ _ _).mp taken)
  rw [missing, Option.getD_none]

/-- Hashing a sock that is neither closed nor listening succeeds exactly when
its 4-tuple is free. -/
theorem hash_connected (inv : TableInv base s recent socks) (member : tsk ∈ s.allocated)
    (unhashed : ¬ s.Hashed tsk) (notClosed : (s.sock tsk).state ≠ .closed)
    (notListen : (s.sock tsk).state ≠ .listen) :
    ((∀ other, s.InEstablished other → (s.sock other).tuple ≠ (s.sock tsk).tuple) ∧
        ∃ links, tcpHash s tsk = .ok (0, tcpSockIncRefCnt { s with links := links } tsk)) ∨
      (¬ (∀ other, s.InEstablished other → (s.sock other).tuple ≠ (s.sock tsk).tuple) ∧
        tcpHash s tsk = .ok (-1, s)) := by
  by_cases free : ∀ other, s.InEstablished other → (s.sock other).tuple ≠ (s.sock tsk).tuple
  · obtain ⟨links, done, _⟩ := inv.shape.tcpHash_free member unhashed notClosed notListen
      fun other inside => free other (inv.established_of_mem inside)
    exact .inl ⟨free, links, done⟩
  · refine .inr ⟨free, ?_⟩
    push Not at free
    obtain ⟨other, inside, same⟩ := free
    exact inv.shape.tcpHash_taken notClosed notListen (inv.mem_bucket inside same) same

open Classical in
/-- The tables account for the references beyond those a sock came with. -/
theorem refCnt_eq (inv : TableInv base s recent socks) (member : tsk ∈ s.allocated) :
    (s.sock tsk).refCnt = base tsk + s.tableCount tsk := by
  have unbound : ¬ s.InBind tsk := by
    rintro ⟨bucket, inside⟩
    rw [inv.shape.bind_entries, inv.unbound] at inside
    exact absurd inside List.not_mem_nil
  obtain ⟨hashed, unhashed⟩ := inv.refs tsk member
  by_cases inEstablished : s.InEstablished tsk <;> by_cases inListen : s.InListen tsk
  · exact absurd inListen (inv.shape.not_inListen_of_inEstablished inEstablished)
  · simp [Stack.tableCount, inEstablished, inListen, unbound, hashed (.inl inEstablished)]
  · simp [Stack.tableCount, inEstablished, inListen, unbound, hashed (.inr inListen)]
  · simp [Stack.tableCount, inEstablished, inListen, unbound,
      unhashed fun either => either.elim inEstablished inListen]

end TableInv

/-- **The established table is a finite map keyed by the 4-tuple.** Along every
table run a sock sits in the bucket of its 4-tuple and no two share one; hashing
returns, succeeds for a connected sock exactly when its 4-tuple is free, and
changes nothing when it fails; unhashing returns; the lookup returns the one
sock with a 4-tuple, or null; and reference counts account for the tables. -/
theorem TableRun.established_is_map {base : SockPtr → ℤ} {s : Stack} {recent : List SockPtr}
    (run : TableRun base s recent) :
    (∀ bucket tsk, tsk ∈ s.entries (.establishedTable bucket) →
      (s.sock tsk).bucket = bucket) ∧
    (∀ first second, s.InEstablished first → s.InEstablished second →
      (s.sock first).tuple = (s.sock second).tuple → first = second) ∧
    (∀ tsk ∈ s.allocated, ¬ s.Released tsk → ¬ s.Hashed tsk →
      ∃ result later, tcpHash s tsk = .ok (result, later) ∧
        (result = 0 ∨ result = -1) ∧ (result = -1 → later = s) ∧
        ((s.sock tsk).state ≠ .closed → (s.sock tsk).state ≠ .listen →
          (result = 0 ↔
            ∀ other, s.InEstablished other → (s.sock other).tuple ≠ (s.sock tsk).tuple))) ∧
    (∀ tsk, s.Hashed tsk → ∃ later, tcpUnhash s tsk = .ok later) ∧
    (∀ saddr daddr sport dport, ∃ found,
      tcpSockLookupEstablished s saddr daddr sport dport = .ok found ∧
        (∀ tsk, s.InEstablished tsk → (s.sock tsk).tuple = (saddr, daddr, sport, dport) →
          found = tsk) ∧
        (found ≠ 0 → s.InEstablished found ∧
          (s.sock found).tuple = (saddr, daddr, sport, dport))) ∧
    ∀ tsk ∈ s.allocated, (s.sock tsk).refCnt = base tsk + s.tableCount tsk := by
  obtain ⟨socks, inv⟩ := run.inv
  refine ⟨?_, ?_, ?_, ?_, ?_, ?_⟩
  · intro bucket tsk member
    rw [inv.shape.established_entries] at member
    exact inv.placed bucket tsk member
  · exact fun first second inFirst inSecond same => inv.established_unique inFirst inSecond same
  · intro tsk member _ unhashed
    by_cases closed : (s.sock tsk).state = .closed
    · refine ⟨-1, s, ?_, .inr rfl, fun _ => rfl, fun notClosed => absurd closed notClosed⟩
      simp [tcpHash, closed, pure, Except.pure]
    · by_cases listening : (s.sock tsk).state = .listen
      · obtain ⟨links, done, _⟩ := inv.shape.tcpHash_listen member unhashed listening
        exact ⟨0, _, done, .inl rfl, by simp, fun _ notListen => absurd listening notListen⟩
      · rcases inv.hash_connected member unhashed closed listening with
          ⟨free, links, done⟩ | ⟨taken, done⟩
        · exact ⟨0, _, done, .inl rfl, by simp, fun _ _ => ⟨fun _ => free, fun _ => rfl⟩⟩
        · exact ⟨-1, s, done, .inr rfl, fun _ => rfl, fun _ _ =>
            ⟨fun zero => absurd zero (by simp), fun free => absurd free taken⟩⟩
  · intro tsk hashed
    obtain ⟨later, _, done, _⟩ := inv.unhash hashed
    exact ⟨later, done⟩
  · intro saddr daddr sport dport
    by_cases present : ∃ tsk, s.InEstablished tsk ∧
        (s.sock tsk).tuple = (saddr, daddr, sport, dport)
    · obtain ⟨tsk, inside, tuple⟩ := present
      refine ⟨tsk, inv.lookupEstablished_of_mem inside tuple, ?_, fun _ => ⟨inside, tuple⟩⟩
      exact fun other inOther same =>
        inv.established_unique inside inOther (tuple.trans same.symm)
    · push Not at present
      exact ⟨0, inv.lookupEstablished_of_not_mem present,
        fun tsk inside tuple => absurd tuple (present tsk inside),
        fun notNull => absurd rfl notNull⟩
  · exact fun tsk member => inv.refCnt_eq member

/-- The stack after a call of `tcp_hash`. -/
def afterHash (s : Stack) (tsk : SockPtr) : Stack :=
  match tcpHash s tsk with
  | .ok (_, later) => later
  | .error halt => halt.stack

/-- A sock in `SYN_SENT` with the given ports. -/
def portsSock (sport dport : U16) : TcpSock :=
  { zeroedSock with state := .synSent, skSport := sport, skDport := dport }

/-- A stack with one sock, which is hashed. -/
def hashedSockStack : Stack :=
  afterHash ((allocTcpSock initTcpStack 1).modify 1 fun _ => portsSock 1 2) 1

/-- The same stack with a second sock, whose ports are those of the first the other way round. -/
def collidingStack : Stack :=
  (allocTcpSock hashedSockStack 2).modify 2 fun _ => portsSock 2 1

theorem hashedSockStack_run : TableRun (fun _ => 0) hashedSockStack [] := by
  have start : TableRun (fun _ => 0) initTcpStack [] := .init
  have absent : 1 ∉ initTcpStack.allocated := by decide
  have run : TableRun (fun _ => 0)
      ((allocTcpSock initTcpStack 1).modify 1 fun _ => portsSock 1 2) [] :=
    start.alloc (by decide) absent rfl
  obtain ⟨socks, inv⟩ := start.inv
  have call : tcpHash ((allocTcpSock initTcpStack 1).modify 1 fun _ => portsSock 1 2) 1 =
    .ok (0, hashedSockStack) := rfl
  exact run.hash (by decide) (by decide) (inv.not_hashed_alloc (by decide) absent) call

/-- The second sock is hashed to the bucket of the first, and the lookup tells them apart. -/
theorem TableRun.established_is_map_colliding : (portsSock 1 2).bucket = (portsSock 2 1).bucket ∧
    ∃ later, tcpHash collidingStack 2 = .ok (0, later) ∧
      tcpSockLookupEstablished later 0 0 1 2 = .ok 1 ∧
      tcpSockLookupEstablished later 0 0 2 1 = .ok 2 := by
  have absent : 2 ∉ hashedSockStack.allocated := by decide
  have run : TableRun (fun _ => 0) collidingStack [] :=
    hashedSockStack_run.alloc (by decide) absent rfl
  obtain ⟨socks, inv⟩ := hashedSockStack_run.inv
  have unhashed : ¬ collidingStack.Hashed 2 := inv.not_hashed_alloc (by decide) absent
  obtain ⟨_, _, hashing, _⟩ := TableRun.established_is_map run
  obtain ⟨result, later, done, _, _, exact_when⟩ := hashing 2 (by decide) (by decide) unhashed
  have free : ∀ other, collidingStack.InEstablished other →
      (collidingStack.sock other).tuple ≠ (collidingStack.sock 2).tuple := by
    intro other inside
    obtain ⟨_, collides⟩ := run.inv
    have member : other ∈ [2, 1] := collides.shape.allocated_of_hashed (.inl inside)
    rcases List.mem_pair.mp member with rfl | rfl
    · exact absurd (.inl inside) unhashed
    · decide
  have success := (exact_when (by decide) (by decide)).mpr free
  subst success
  have same : later = afterHash collidingStack 2 := by rw [afterHash, done]
  have bucket : ∀ tsk ∈ [2, 1],
      tsk ∈ later.entries (.establishedTable (portsSock 1 2).bucket) := by
    rw [same]
    decide
  have tuples : (later.sock 1).tuple = (0, 0, 1, 2) ∧ (later.sock 2).tuple = (0, 0, 2, 1) := by
    rw [same]
    exact ⟨rfl, rfl⟩
  have hashed : TableRun (fun _ => 0) later [] := run.hash (by decide) (by decide) unhashed done
  obtain ⟨_, _, _, _, lookup, _⟩ := TableRun.established_is_map hashed
  obtain ⟨first, firstFound, isFirst, _⟩ := lookup 0 0 1 2
  obtain ⟨second, secondFound, isSecond, _⟩ := lookup 0 0 2 1
  refine ⟨by decide, later, done, ?_, ?_⟩
  · rw [firstFound, isFirst 1 ⟨_, bucket 1 (by decide)⟩ tuples.1]
  · rw [secondFound, isSecond 2 ⟨_, bucket 2 (by decide)⟩ tuples.2]

/-! ## Demultiplexing -/

/-- The 4-tuple of the sock a packet is for: its own with source and destination
exchanged. -/
def TcpCb.mirrored (cb : TcpCb) : U32 × U32 × U16 × U16 := (cb.daddr, cb.saddr, cb.dport, cb.sport)

namespace TableInv

variable {base : SockPtr → ℤ} {s : Stack} {recent : List SockPtr} {socks : Sequences}
  {tsk : SockPtr} {cb : TcpCb}

theorem inListen_iff (inv : TableInv base s recent socks) : s.InListen tsk ↔ tsk ∈ recent := by
  constructor
  · rintro ⟨bucket, inside⟩
    rw [inv.shape.listen_entries, inv.listening] at inside
    exact (List.mem_filter.mp inside).1
  · intro member
    exact ⟨_, by rw [inv.shape.listen_entries]; exact inv.mem_recent_iff.mp member⟩

/-- The established table is searched first. -/
theorem lookup_of_established (inv : TableInv base s recent socks) (inside : s.InEstablished tsk)
    (tuple : (s.sock tsk).tuple = cb.mirrored) : tcpSockLookup s cb = .ok tsk := by
  have found := inv.lookupEstablished_of_mem inside tuple
  simp only [tcpSockLookup, found, bind, Except.bind, inv.ne_null_of_established inside, if_false,
    pure, Except.pure]

/-- Then the most recent listener of the port is taken. -/
theorem lookup_of_not_established (inv : TableInv base s recent socks)
    (free : ∀ tsk, s.InEstablished tsk → (s.sock tsk).tuple ≠ cb.mirrored) :
    tcpSockLookup s cb =
      .ok ((recent.find? fun tsk => (s.sock tsk).skSport == cb.dport).getD 0) := by
  have missing := inv.lookupEstablished_of_not_mem free
  have narrow : (fun tsk => decide
      (decide (portBucket (s.sock tsk).skSport = portBucket cb.dport) = true ∧
        ((s.sock tsk).skSport == cb.dport) = true)) =
      fun tsk => (s.sock tsk).skSport == cb.dport := by
    funext tsk
    by_cases same : (s.sock tsk).skSport = cb.dport <;> simp [same]
  simp only [tcpSockLookup, missing, bind, Except.bind, if_true, inv.shape.lookupListen_eq,
    inv.listening, List.find?_filter, narrow]

/-- Hashing a sock with a free 4-tuple changes the lookup of the packets for it
only. -/
theorem lookup_after_hash (inv : TableInv base s recent socks) {child : SockPtr}
    (member : child ∈ s.allocated) (unhashed : ¬ s.Hashed child)
    (notClosed : (s.sock child).state ≠ .closed) (notListen : (s.sock child).state ≠ .listen)
    (tuple : (s.sock child).tuple = cb.mirrored)
    (free : ∀ tsk, s.InEstablished tsk → (s.sock tsk).tuple ≠ cb.mirrored) :
    ∃ later, tcpHash s child = .ok (0, later) ∧ tcpSockLookup later cb = .ok child ∧
      ∀ other : TcpCb, other.mirrored ≠ cb.mirrored →
        tcpSockLookup later other = tcpSockLookup s other := by
  have freeBucket : ∀ other ∈ socks (.establishedTable (s.sock child).bucket),
      (s.sock other).tuple ≠ (s.sock child).tuple := by
    intro other inside
    rw [tuple]
    exact free other (inv.established_of_mem inside)
  obtain ⟨links, done, shape, _⟩ :=
    inv.shape.tcpHash_free member unhashed notClosed notListen freeBucket
  have laterInv := inv.hash_established shape unhashed freeBucket
  -- the established table has gained the child and nothing else
  have gained : ∀ tsk, (tcpSockIncRefCnt { s with links := links } child).InEstablished tsk ↔
      tsk = child ∨ s.InEstablished tsk := by
    intro tsk
    simp only [Stack.InEstablished, laterInv.shape.established_entries,
      inv.shape.established_entries]
    constructor
    · rintro ⟨bucket, inside⟩
      rcases Sequences.mem_front.mp inside with ⟨_, same⟩ | inside
      · exact .inl same
      · exact .inr ⟨bucket, inside⟩
    · rintro (rfl | ⟨bucket, inside⟩)
      · exact ⟨(s.sock tsk).bucket, Sequences.mem_front.mpr (.inl ⟨rfl, rfl⟩)⟩
      · exact ⟨bucket, Sequences.mem_front.mpr (.inr inside)⟩
  refine ⟨_, done, laterInv.lookup_of_established ((gained child).mpr (.inl rfl)) ?_, ?_⟩
  · rw [tcpSockIncRefCnt_tuple]
    exact tuple
  · intro other different
    by_cases present : ∃ tsk, s.InEstablished tsk ∧ (s.sock tsk).tuple = other.mirrored
    · obtain ⟨tsk, inside, same⟩ := present
      rw [inv.lookup_of_established inside same]
      refine laterInv.lookup_of_established ((gained tsk).mpr (.inr inside)) ?_
      rw [tcpSockIncRefCnt_tuple]
      exact same
    · push Not at present
      rw [inv.lookup_of_not_established present, laterInv.lookup_of_not_established]
      · simp only [TcpSock.skSport_of_tuple
          (tcpSockIncRefCnt_tuple { s with links := links } child _)]
      · intro tsk inside
        rw [tcpSockIncRefCnt_tuple]
        rcases (gained tsk).mp inside with rfl | old
        · exact fun same => different (same.symm.trans tuple)
        · exact present tsk old

end TableInv

/-- **Demultiplexing is exact and agrees with hashing.** A packet goes to the
sock of the established table with its mirrored 4-tuple; otherwise to the most
recently hashed listener of its destination port; otherwise to nobody. When it
goes to a listener, a new sock with the mirrored 4-tuple can be hashed, takes
over the packets of that 4-tuple, and leaves the lookup of all others alone. -/
theorem TableRun.lookup_exact {base : SockPtr → ℤ} {s : Stack} {recent : List SockPtr}
    (run : TableRun base s recent) :
    (∀ tsk, s.InListen tsk ↔ tsk ∈ recent) ∧
    (∀ (cb : TcpCb) (tsk : SockPtr), s.InEstablished tsk →
      (s.sock tsk).tuple = cb.mirrored → tcpSockLookup s cb = .ok tsk) ∧
    (∀ cb : TcpCb, (∀ tsk, s.InEstablished tsk → (s.sock tsk).tuple ≠ cb.mirrored) →
      tcpSockLookup s cb =
        .ok ((recent.find? fun tsk => (s.sock tsk).skSport == cb.dport).getD 0)) ∧
    ∀ (cb : TcpCb) (listener child : SockPtr), tcpSockLookup s cb = .ok listener →
      s.InListen listener → child ∈ s.allocated → ¬ s.Hashed child →
      (s.sock child).state = .synRecv → (s.sock child).tuple = cb.mirrored →
        ∃ later, tcpHash s child = .ok (0, later) ∧ tcpSockLookup later cb = .ok child ∧
          ∀ other : TcpCb, other.mirrored ≠ cb.mirrored →
            tcpSockLookup later other = tcpSockLookup s other := by
  obtain ⟨socks, inv⟩ := run.inv
  refine ⟨fun _ => inv.inListen_iff, fun _ _ => inv.lookup_of_established,
    fun _ => inv.lookup_of_not_established, ?_⟩
  intro cb listener child found inListen member unhashed state tuple
  refine inv.lookup_after_hash member unhashed (by simp [state]) (by simp [state]) tuple ?_
  -- a sock of the established table would have been found instead of the listener
  intro tsk inside same
  rw [inv.lookup_of_established inside same] at found
  cases found
  exact inv.shape.not_inListen_of_inEstablished inside inListen

/-- A stack with one sock in `LISTEN` on port 80, not hashed yet. -/
def unhashedListenerStack : Stack :=
  (allocTcpSock initTcpStack 1).modify 1 fun _ =>
    { zeroedSock with state := .listen, skSport := 80 }

/-- The stack after hashing the listener. -/
def listenerStack : Stack := afterHash unhashedListenerStack 1

/-- The same stack with a sock for a connection from port 9 of host 2. -/
def pendingStack : Stack :=
  (allocTcpSock listenerStack 2).modify 2 fun _ =>
    { zeroedSock with state := .synRecv, skSip := 1, skSport := 80, skDip := 2, skDport := 9 }

theorem listenerStack_run : TableRun (fun _ => 0) listenerStack [1] := by
  have start : TableRun (fun _ => 0) initTcpStack [] := .init
  have absent : 1 ∉ initTcpStack.allocated := by decide
  have run : TableRun (fun _ => 0) unhashedListenerStack [] := start.alloc (by decide) absent rfl
  obtain ⟨socks, inv⟩ := start.inv
  have unhashed : ¬ unhashedListenerStack.Hashed 1 := inv.not_hashed_alloc (by decide) absent
  have call : tcpHash unhashedListenerStack 1 = .ok (0, listenerStack) := rfl
  exact run.hash (by decide) (by decide) unhashed call

/-- A SYN from port 9 of host 2 to port 80. -/
def synFromTwo : TcpCb :=
  { saddr := 2, daddr := 1, sport := 9, dport := 80, seq := 0, seqEnd := 1, ack := 0, rwnd := 0,
    flags := tcpSyn, payload := 0, plLen := 0 }

/-- A packet that goes to the listener, and the sock hashed for it. -/
theorem TableRun.lookup_exact_passive_open :
    ∃ later, tcpSockLookup pendingStack synFromTwo = .ok 1 ∧
      tcpHash pendingStack 2 = .ok (0, later) ∧ tcpSockLookup later synFromTwo = .ok 2 := by
  have absent : 2 ∉ listenerStack.allocated := by decide
  have run : TableRun (fun _ => 0) pendingStack [1] :=
    listenerStack_run.alloc (by decide) absent rfl
  obtain ⟨socks, inv⟩ := listenerStack_run.inv
  have unhashed : ¬ pendingStack.Hashed 2 := inv.not_hashed_alloc (by decide) absent
  have found : tcpSockLookup pendingStack synFromTwo = .ok 1 := rfl
  obtain ⟨listening, _, _, passive⟩ := TableRun.lookup_exact run
  obtain ⟨later, done, mine, _⟩ := passive synFromTwo 1 2 found ((listening 1).mpr (by simp))
    (by decide) unhashed rfl rfl
  exact ⟨later, found, done, mine⟩

end TcpStack
