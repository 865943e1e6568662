import UploadProbe.Http.Connection
import UploadProbe.Upload.Sample

/-!
# Series of uploads

Several samples are uploaded one after the other with the same settings, by one client. Each upload
finds the connections that those before it have left open and the replies that they have not used.
-/

namespace UploadProbe

/-- What one upload of a series leaves behind. -/
structure UploadStep where
  ending : UploadEnd
  /-- The requests of this upload that were received whole. -/
  received : List Request
  events : List Log.Event
deriving DecidableEq, Repr

variable [HostMapping] [MultibyteDecoding]

namespace Upload

/-- Uploads a sample to a server with some replies, every request over a connection of its own, and
tells which replies are left. -/
def step (network : Network) (surroundings : Surroundings) (settings : Settings)
    (sample : Sample) (replies : List Reply) : UploadStep × List Reply :=
  let (ending, script) :=
    (run (Script.deliver network) surroundings settings sample).run { replies }
  (⟨ending, script.received, [settings.uploadEvent sample]⟩, script.replies)

end Upload

namespace Client

/-- Uploads a sample over the connections of a client. -/
def upload (keeps : Keeping) (network : Network) (settings : Settings) (surroundings : Surroundings)
    (sample : Sample) (client : Client) : UploadStep × Client :=
  let script := { client.script with received := [] }
  let (ending, client) :=
    (Upload.run (deliver keeps network) surroundings settings sample).run { client with script }
  (⟨ending, client.script.received, [settings.uploadEvent sample]⟩, client)

/-- Uploads samples one after the other, each in its own surroundings. -/
def uploads (keeps : Keeping) (network : Network) (settings : Settings) :
    List (Surroundings × Sample) → Client → List UploadStep
  | [], _ => []
  | (surroundings, sample) :: rest, client =>
    let (step, client) := client.upload keeps network settings surroundings sample
    step :: uploads keeps network settings rest client

end Client

/-- Uploads samples one after the other, by a client that gives up connections with octets that
nobody has asked for. -/
def Upload.series (network : Network) (surroundings : Surroundings) (settings : Settings)
    (samples : List Sample) (replies : List Reply) : List UploadStep :=
  Client.uploads .noticing network settings (samples.map fun sample => (surroundings, sample))
    { script := { replies } }

end UploadProbe
