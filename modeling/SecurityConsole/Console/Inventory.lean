/-
How much there is of each kind of asset on a host. Seven listings are
asked for at once, each for a page with one item; of the pages only the
totals count.
-/
import SecurityConsole.Console.Job
import SecurityConsole.Resource.Assets

namespace SecurityConsole

open Resource

/-- The numbers of assets on a host. -/
structure AssetCounts where
  processes : Int
  ports : Int
  users : Int
  containers : Int
  packages : Int
  services : Int
  cron : Int
  deriving DecidableEq, Repr, Inhabited

/-- The numbers as JSON. -/
def AssetCounts.toJson (n : AssetCounts) : Json :=
  .obj
    [("processes", .int n.processes), ("ports", .int n.ports),
     ("users", .int n.users), ("containers", .int n.containers),
     ("packages", .int n.packages), ("services", .int n.services),
     ("cron", .int n.cron)]

namespace Console

/-- The filter for the assets of a host, one to a page. -/
def oneOnHost (host : String) : assetQuery.Value :=
  (some host, some ⟨1, by decide⟩, some ⟨1, by decide⟩,
    none, none, none, none, none, none, none, none, ())

/-- The call for the first asset of a listing on a host. -/
def countCall (action path : String) (item : Schema) (host : String) :
    Call :=
  (assetListing action path item).call ⟨(), oneOnHost host, ()⟩

/-- The calls for the assets of a host. -/
def countCalls (host : String) : List Call :=
  [countCall "processes" "/assets/processes" process host,
   countCall "ports" "/assets/ports" port host,
   countCall "users" "/assets/users" assetUser host,
   countCall "containers" "/assets/containers" container host,
   countCall "software" "/assets/software" software host,
   countCall "services" "/assets/services" service host,
   countCall "crons" "/assets/crons" cron host]

/-- The total of a page; zero if there is none. -/
def totalOf (item : Schema) : Except ApiError (page item).Value → Int
  | .ok value => value.1.1
  | .error _ => 0

/-- The numbers that the outcomes give. -/
def countsOf (host : String) : Answers (countCalls host) → AssetCounts
  | (processes, ports, users, containers, packages, services, crons, ()) =>
    { processes := totalOf process processes
      ports := totalOf port ports
      users := totalOf assetUser users
      containers := totalOf container containers
      packages := totalOf software packages
      services := totalOf service services
      cron := totalOf cron crons }

/-- Count the assets of a host. -/
def countAssets (host : String) : Job AssetCounts :=
  .calls (countCalls host) fun as => .done (countsOf host as)

end Console
end SecurityConsole
