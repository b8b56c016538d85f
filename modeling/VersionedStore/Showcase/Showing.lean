import VersionedStore.Http.Response
import VersionedStore.Log.Filter
import VersionedStore.Settings.File
import VersionedStore.Showcase.Script
import VersionedStore.Showcase.Shop

/-!
# A showing

Settings are loaded, the services of a shop are registered, and orders and products are created,
changed, loaded and deleted, some of them against the rules. Everything is logged.
-/

namespace VersionedStore.Showcase

open Crud

/-- What a showing takes from outside: the path and the content of a settings file, the texts that
override settings, the moment of each request and what joins its log lines. -/
structure Surroundings where
  file : Option (String × Settings.FileContent)
  lookup : String → Option String
  moment : Nat → Moment
  correlation : Uuid

/-- What has been logged in the end, and the error that broke it off. -/
structure Showing where
  log : List Log.Entry
  error : Option String

/-- An entry of the showing itself. -/
def entry (level : Log.Level) (message : String) (fields : List (String × Log.Value)) : Log.Entry :=
  ⟨level, "demo", message, fields⟩

/-- Log that something was reached. -/
def tell (message : String) (fields : List (String × Log.Value)) : Script Unit :=
  .say (entry .info message fields)

/-- How a flag is shown. -/
def flagText (b : Bool) : String := if b then "true" else "false"

/-- How settings are shown. -/
def settingsText (s : Settings) : String :=
  "PersistenceConfig \x7b read_only: " ++ flagText s.readOnly ++
    ", auto_generate_oid: " ++ flagText s.generateOids ++
    ", update_creates_missing: " ++ flagText s.createMissing ++ " \x7d"

/-- How a list of texts is shown. -/
def listText (ss : List String) : String := "[" ++ ", ".intercalate (ss.map Text.quoted) ++ "]"

/-- Log what came of a step: what was performed, told by `details`, or why it was rejected. -/
def report {α : Type} [Coded α] (step : String) (details : Success α → List (String × Log.Value))
    (a : Answer α) : Script Unit :=
  let fields : List (String × Log.Value) :=
    [("step", .string step), ("status", .number (Http.Response.ofAnswer a).status)]
  match a with
  | .done s => tell "done" (fields ++ details s)
  | .rejected r => .say (entry .warn "rejected" (fields ++ [("error", .shown r.text)]))

/-- Log what came of a step with an order. -/
def reportOrder (step : String) : Answer order.Object → Script Unit :=
  report step fun s ↦
    [("requested", .shown s.requested.text), ("performed", .shown s.performed.text),
      ("oid", .shown s.object.oidText), ("version", .shown s.object.version.text)]

/-- Log what came of a step with a document. -/
def reportDocument (step : String) : Answer Document → Script Unit :=
  report step fun s ↦
    [("performed", .shown s.performed.text), ("body", .shown (jsonText s.object))]

/-- A request to the service for orders. -/
def askOrders (request : {σ : Type} → Service order σ → Action σ (Reply order.Object)) :
    Script (Answer order.Object) :=
  .ask (Registry.call order request)

/-- The product that is saved. -/
def pencil : Document :=
  .ofJson (.obj [("oid", .str "sku-1"), ("name", .str "pencil"), ("stock", .int 10)])

/-- Another product under the same OID. -/
def pen : Document := .ofJson (.obj [("oid", .str "sku-1"), ("name", .str "pen")])

/-- What is done with an order once it is stored. -/
def followUp (caller : Caller) (moment : Nat → Moment) (stored : order.Object) : Script Unit := do
  reportOrder "update unchanged" (← askOrders fun s ↦ s.update caller (moment 1).now stored)
  let changed := withTotal (Fin.ofNat _ 2000) stored
  reportOrder "update changed" (← askOrders fun s ↦ s.update caller (moment 2).now changed)
  reportOrder "update stale" (← askOrders fun s ↦ s.update caller (moment 3).now stored)
  match stored.oid with
  | some oid =>
    reportOrder "delete order" (← askOrders fun s ↦ s.delete caller oid)
    reportOrder "load deleted" (← askOrders fun s ↦ s.load caller oid)
  | none => return

/-- Everything that is done with the services. -/
def script (given : Surroundings) (settings : Settings) : Script Unit := do
  .ask (Registry.register (orders settings))
  .ask (Registry.register (products settings))
  let tags ← .registry Registry.tags
  tell "services registered" [("tags", .shown (listText tags))]
  let caller : Caller := ⟨some "demo", some given.correlation.text⟩
  let acme := orderOf "ACME" (Fin.ofNat _ 1250)
  let created ← askOrders fun s ↦ s.create caller (given.moment 0) acme
  reportOrder "create order" created
  match created.object with
  | some stored => followUp caller given.moment stored
  | none => pure ()
  let nobody := Model.Object.initial order
  reportOrder "create invalid order" (← askOrders fun s ↦ s.create caller (given.moment 4) nobody)
  let saved ← .ask (Registry.saveJson "product" caller (given.moment 5) pencil)
  reportDocument "save product json" saved
  reportDocument "save duplicate product json"
    (← .ask (Registry.saveJson "product" caller (given.moment 6) pen))
  reportDocument "load product json" (← .ask (Registry.loadJson "product" caller "sku-1"))
  let response := Http.Response.ofAnswer saved
  tell "rest response" [("status", .number response.status), ("body", .shown response.body)]

/-- The settings to start with. -/
def baseSettings (given : Surroundings) : Except Failure Settings :=
  match given.file with
  | some (_, content) => Settings.ofFile content
  | none => .ok .standard

/-- The settings of a showing. -/
def settings (given : Surroundings) : Except Failure Settings := do
  (← baseSettings given).withOverrides given.lookup

/-- What is logged before the settings are known. -/
def opening (given : Surroundings) : List Log.Entry :=
  match given.file with
  | some (path, _) => [entry .info "loading persistence config" [("path", .shown path)]]
  | none => []

/-- A showing from beginning to end. -/
def Showing.of (given : Surroundings) : Showing :=
  match settings given with
  | .error f => ⟨opening given, some f.message⟩
  | .ok settings =>
    let start := entry .info "starting" [("config", .shown (settingsText settings))]
    let (outcome, scene) := script given settings ⟨.empty, opening given ++ [start]⟩
    match outcome with
    | .ok () => ⟨scene.log, none⟩
    | .error e => ⟨scene.log, some e.message⟩

/-- What passes unless another filter is asked for: what is told, and what services do. -/
def standardFilter : Log.Filter :=
  [⟨"demo", none, some .info⟩, ⟨"r01f_application", none, some .info⟩]

/-- The filter that is asked for, if it reads. -/
def filterOf (asked : Option String) : Log.Filter := (asked.bind Log.Filter.read?).getD standardFilter

/-- The entries of a showing that pass a filter. -/
def Showing.entries (s : Showing) (filter : Log.Filter) : List Log.Entry := s.log.filter filter.passes

end VersionedStore.Showcase
