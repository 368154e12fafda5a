import ExerciseClient.Api.Client
import ExerciseClient.Channel.Handshake

/-!
The back end as a script: how each exchange with it goes. Log-in, progress and description are asked
for once each, so one exchange for each is every behaviour that a back end can show there.
-/

namespace ExerciseClient

open Http (Exchange)

/-- A back end. -/
structure Backend where
  login : Exchange
  progress : Exchange
  exercise : Exchange
  /-- The first saves; all after them end alike. -/
  saves : List Exchange
  laterSaves : Exchange
  /-- The first handshakes; all after them end alike. -/
  handshakes : List Handshake
  laterHandshakes : Handshake

namespace Backend

/-- A back end that no connection can be made to. -/
def unreachable : Backend where
  login := .unreachable Http.unreachableCauses
  progress := .unreachable Http.unreachableCauses
  exercise := .unreachable Http.unreachableCauses
  saves := []
  laterSaves := .unreachable Http.unreachableCauses
  handshakes := []
  laterHandshakes := .unreachable s!"IO error: {Http.unreachableText}"

/-- The store that a client's saves go to. -/
def store (b : Backend) (c : ApiClient) (exercise : String) : Store :=
  ⟨b.saves.map (c.saveAnswer exercise), c.saveAnswer exercise b.laterSaves⟩

/-- The requests of saves, as far as they reach a peer. -/
def saveRequests (b : Backend) (c : ApiClient) (exercise : String) (saves : List SaveRequest) :
    List Http.Request :=
  (saves.zipIdx.map fun r =>
    (c.save exercise r.1 (b.saves[r.2]?.getD b.laterSaves)).requests).flatten

end Backend

end ExerciseClient
