import Mathlib.Logic.Function.Basic
import Mathlib.Logic.Relation
import Mathlib.Data.Set.Basic

/-!
# Parties on a network

Parties that move on their own and exchange messages over a network that may
lose, duplicate, delay, reorder and misroute them: at any time any party may be
handed any message that any party ever sent. The wire is what was ever sent, so
it only grows (`Protocol.Keeps.wire_subset`).

What holds of a party may depend on the wire. A relation between a wire and a
party that survives a growing wire, that says of every message of the party what
it may be, and that a single move and a single reception keep (`Protocol.Keeps`)
holds of every party in every state of every run (`Protocol.Keeps.run`). In the
step of a reception, what the relation says of the message received is known,
whoever sent it.

Parties that are described in more detail are simulated by others that have sent the
same, if each is, move by move (`Protocol.Simulates.run`).
-/

set_option autoImplicit false

namespace TcpStack.Lib

/-- What a party may do: everything it ever sent can be read off its state, it
moves on its own, and it takes messages. -/
structure Protocol (Party State Message : Type*) where
  sent : State → Set Message
  moves : Party → State → State → Prop
  takes : Message → State → State → Prop

namespace Protocol

variable {Party State Message : Type*} (protocol : Protocol Party State Message)

/-- Every message ever sent. -/
def wire (parties : Party → State) : Set Message :=
  {message | ∃ party, message ∈ protocol.sent (parties party)}

/-- What a party sent is on the wire. -/
theorem sent_subset_wire (parties : Party → State) (party : Party) :
    protocol.sent (parties party) ⊆ protocol.wire parties :=
  fun _ isSent => ⟨party, isSent⟩

variable [DecidableEq Party]

/-- One party moves, or takes a message of the wire. -/
inductive Step (parties : Party → State) : (Party → State) → Prop where
  | moves {party : Party} {later : State} : protocol.moves party (parties party) later →
      Step parties (Function.update parties party later)
  | takes {party : Party} {message : Message} {later : State} :
      message ∈ protocol.wire parties → protocol.takes message (parties party) later →
        Step parties (Function.update parties party later)

abbrev Run : (Party → State) → (Party → State) → Prop :=
  Relation.ReflTransGen protocol.Step

variable {protocol} {parties last : Party → State}

/-- When a party forgets none of its messages, a change of that party adds its
new messages to the wire. -/
theorem wire_update {party : Party} {later : State}
    (grows : protocol.sent (parties party) ⊆ protocol.sent later) :
    protocol.wire (Function.update parties party later) =
      protocol.wire parties ∪ protocol.sent later := by
  ext message
  constructor
  · rintro ⟨other, isSent⟩
    by_cases same : other = party
    · rw [same, Function.update_self] at isSent
      exact .inr isSent
    · rw [Function.update_of_ne same] at isSent
      exact .inl ⟨other, isSent⟩
  · rintro (⟨other, isSent⟩ | isSent)
    · by_cases same : other = party
      · rw [same] at isSent
        exact ⟨party, by rw [Function.update_self]; exact grows isSent⟩
      · exact ⟨other, by rwa [Function.update_of_ne same]⟩
    · exact ⟨party, by rwa [Function.update_self]⟩

/-- The rules that make a relation between the wire and a party hold in a whole
run: `Fits` is the relation, and `Valid` is what it says of the messages. -/
structure Keeps (protocol : Protocol Party State Message)
    (Fits : Set Message → State → Prop) (Valid : Set Message → Message → Prop) : Prop where
  mono : ∀ {wire more : Set Message} {state : State}, wire ⊆ more → Fits wire state →
    Fits more state
  valid : ∀ {wire : Set Message} {state : State}, Fits wire state →
    ∀ message ∈ protocol.sent state, Valid wire message
  moves : ∀ {wire : Set Message} {party : Party} {state later : State}, Fits wire state →
    protocol.sent state ⊆ wire → protocol.moves party state later →
      protocol.sent state ⊆ protocol.sent later ∧ Fits (wire ∪ protocol.sent later) later
  takes : ∀ {wire : Set Message} {message : Message} {state later : State}, Fits wire state →
    protocol.sent state ⊆ wire → message ∈ wire → Valid wire message →
      protocol.takes message state later →
        protocol.sent state ⊆ protocol.sent later ∧ Fits (wire ∪ protocol.sent later) later

namespace Keeps

variable {Fits : Set Message → State → Prop} {Valid : Set Message → Message → Prop}

omit [DecidableEq Party] in
/-- Every message of the wire is valid, whoever sent it. -/
theorem valid_of_mem_wire (keeps : protocol.Keeps Fits Valid)
    (fits : ∀ party, Fits (protocol.wire parties) (parties party)) {message : Message}
    (member : message ∈ protocol.wire parties) : Valid (protocol.wire parties) message := by
  obtain ⟨party, isSent⟩ := member
  exact keeps.valid (fits party) message isSent

/-- What a party that changed is related to, and the others with it. -/
theorem update (keeps : protocol.Keeps Fits Valid) {party : Party} {later : State}
    (fits : ∀ party, Fits (protocol.wire parties) (parties party))
    (changed : protocol.sent (parties party) ⊆ protocol.sent later ∧
      Fits (protocol.wire parties ∪ protocol.sent later) later) (other : Party) :
    Fits (protocol.wire (Function.update parties party later))
      (Function.update parties party later other) := by
  rw [wire_update changed.1]
  by_cases same : other = party
  · rw [same, Function.update_self]
    exact changed.2
  · rw [Function.update_of_ne same]
    exact keeps.mono Set.subset_union_left (fits other)

/-- One step keeps the relation of every party, and the messages of the wire. -/
theorem step (keeps : protocol.Keeps Fits Valid)
    (fits : ∀ party, Fits (protocol.wire parties) (parties party))
    (step : protocol.Step parties last) :
    (∀ party, Fits (protocol.wire last) (last party)) ∧
      protocol.wire parties ⊆ protocol.wire last := by
  cases step with
  | moves moved =>
      have changed := keeps.moves (fits _) (protocol.sent_subset_wire parties _) moved
      refine ⟨keeps.update fits changed, ?_⟩
      rw [wire_update changed.1]
      exact Set.subset_union_left
  | takes member taken =>
      have changed := keeps.takes (fits _) (protocol.sent_subset_wire parties _) member
        (keeps.valid_of_mem_wire fits member) taken
      refine ⟨keeps.update fits changed, ?_⟩
      rw [wire_update changed.1]
      exact Set.subset_union_left

/-- **A relation that single steps keep holds of every party in every state of a
run.** -/
theorem run (keeps : protocol.Keeps Fits Valid)
    (fits : ∀ party, Fits (protocol.wire parties) (parties party))
    (run : protocol.Run parties last) : ∀ party, Fits (protocol.wire last) (last party) := by
  induction run with
  | refl => exact fits
  | tail _ taken ih => exact (keeps.step ih taken).1

/-- What was sent stays sent. -/
theorem wire_subset (keeps : protocol.Keeps Fits Valid)
    (fits : ∀ party, Fits (protocol.wire parties) (parties party))
    (run : protocol.Run parties last) : protocol.wire parties ⊆ protocol.wire last := by
  induction run with
  | refl => exact Set.Subset.rfl
  | tail before taken ih => exact ih.trans (keeps.step (keeps.run fits before) taken).2

end Keeps

/-! ## Simulation -/

/-- Each party of one protocol is related to the party of that name of the other, and has sent
the same. The other one answers a move by a move or not at all, and a reception by a
reception. -/
structure Simulates {Detailed : Type*} (detailed : Protocol Party Detailed Message)
    (protocol : Protocol Party State Message) (Rel : Party → Detailed → State → Prop) : Prop where
  sent : ∀ {party : Party} {state : Detailed} {seen : State}, Rel party state seen →
    detailed.sent state = protocol.sent seen
  moves : ∀ {party : Party} {state later : Detailed} {seen : State}, Rel party state seen →
    detailed.moves party state later →
      Rel party later seen ∨ ∃ next, protocol.moves party seen next ∧ Rel party later next
  takes : ∀ {party : Party} {message : Message} {state later : Detailed} {seen : State},
    Rel party state seen → detailed.takes message state later →
      ∃ next, protocol.takes message seen next ∧ Rel party later next

namespace Simulates

variable {Detailed : Type*} {detailed : Protocol Party Detailed Message}
  {Rel : Party → Detailed → State → Prop} {states final : Party → Detailed}

omit [DecidableEq Party] in
/-- The wire is the same. -/
theorem wire_eq (simulates : detailed.Simulates protocol Rel)
    (related : ∀ party, Rel party (states party) (parties party)) :
    detailed.wire states = protocol.wire parties := by
  ext message
  exact exists_congr fun party => by rw [simulates.sent (related party)]

/-- Parties that change together stay related. -/
theorem update (related : ∀ party, Rel party (states party) (parties party)) {party : Party}
    {later : Detailed} {next : State} (changed : Rel party later next) (other : Party) :
    Rel other (Function.update states party later other)
      (Function.update parties party next other) := by
  by_cases same : other = party
  · subst same
    rw [Function.update_self, Function.update_self]
    exact changed
  · rw [Function.update_of_ne same, Function.update_of_ne same]
    exact related other

/-- **Every run is simulated by a run** that ends in related parties. -/
theorem run (simulates : detailed.Simulates protocol Rel)
    (related : ∀ party, Rel party (states party) (parties party))
    (run : detailed.Run states final) :
    ∃ last, protocol.Run parties last ∧ ∀ party, Rel party (final party) (last party) := by
  induction run with
  | refl => exact ⟨parties, .refl, related⟩
  | tail _ taken ih =>
      obtain ⟨last, before, between⟩ := ih
      cases taken with
      | @moves party later moved =>
          rcases simulates.moves (between party) moved with same | ⟨next, answer, changed⟩
          · refine ⟨last, before, fun other => ?_⟩
            have kept := update between same other
            rwa [Function.update_eq_self] at kept
          · exact ⟨_, before.tail (.moves answer), update between changed⟩
      | @takes party message later member taken =>
          obtain ⟨next, answer, changed⟩ := simulates.takes (between party) taken
          rw [simulates.wire_eq between] at member
          exact ⟨_, before.tail (.takes member answer), update between changed⟩

end Simulates

end Protocol

end TcpStack.Lib
