import Modeset.Simulation.Device

/-!
# A simulated device node

The requests to a device node, answered by the scripted kernel as the real one would: names are in
fields and every property has a value. What only looks at the kernel is not traced. The node is
opened as a file of the machine's tree.

## Main definitions

* `node` — the answers to requests
* `host` — the answers of the machine's files, environment and outputs
-/

namespace Modeset.Simulation

open Machine

/-- The properties of a connector, each with its value or zero. -/
def describeProperties (object : ConnectorObject) : List (UInt32 × UInt64) :=
  object.props.zip (object.propValues ++ List.replicate object.props.length 0)

/-- Whether a request hands its payload back. -/
def handsBack (request : UInt32) : Bool := request &&& 0x80000000 ≠ 0

/-- Look at what has lists of any length. The kernel is asked twice, first how long the lists are
and then for the lists, and each time the plans count. -/
def fetch {α : Type} (kind : String) (id : Option UInt32) (read : Kernel → Except Fault α) :
    Run (Except Fault α) := do
  match ← attempt kind id (look read) with
  | .error fault => return .error fault
  | .ok _ => attempt kind id (look read)

/-- The number that an open file has. -/
def descriptor : Nat := 3

/-- Answer what concerns a device node. -/
def node : (call : Node.Call) → Run (Node.Answer call)
  | .openFile path => return ((← get).files.openFile path).map fun () => descriptor
  | .closeFile => return ()
  | .resources => fetch "resources" none fun kernel => .ok kernel.listResources
  | .connector id _ =>
    fetch "connector" (some id) fun kernel => (kernel.findConnector id).map (·.record)
  | .properties id =>
    fetch "properties" (some id) fun kernel => (kernel.findConnector id).map describeProperties
  | .encoder id =>
    attempt "encoder" (some id) (look fun kernel => (kernel.findEncoder id).map (·.record))
  | .crtc id => attempt "crtc" (some id) (look (·.findCrtc id))
  | .property id =>
    attempt "property" (some id)
      (look fun kernel => (kernel.findProperty id).map NameField.closed)
  | .addFramebuffer spec => kms (.addFramebuffer spec)
  | .removeFramebuffer id => kms (.removeFramebuffer id)
  | .setCrtc id framebuffer x y connectors mode =>
    kms (.setCrtc id framebuffer x y connectors mode)
  | .setProperty connector property value =>
    kms (.setConnectorProperty connector property value)
  | .createDumb width height bpp => kms (.createDumb width height bpp)
  | .destroyDumb handle => kms (.destroyDumb handle)
  | .command request payload =>
    perform s!"ioctl 0x{Layout.hex 8 request.toNat} data={Layout.payload payload}" showDone
      "command" none
      (look fun _ => .ok (if handsBack request then Kernel.echo payload else payload))

/-- Change the machine's files. -/
def changeFiles (act : FileTree → Except Fault Unit × FileTree) : Run (Except Fault Unit) := do
  let (outcome, files) := act (← get).files
  modify fun machine => { machine with files }
  return outcome

/-- Answer what concerns the machine around the program. -/
def host : (call : Host.Call) → Run (Host.Answer call)
  | .setting name =>
    return ((← get).environment.find? (·.1 = name)).map (·.2)
  | .pathExists path => return (← get).files.exists? path
  | .readFile path => return (← get).files.content path
  | .writeFile path content => changeFiles (·.writeFile path content)
  | .createDirectories path => changeFiles (·.createDirectories path)
  | .print text => modify fun machine => { machine with printed := text :: machine.printed }
  | .printError text =>
    modify fun machine => { machine with printedErrors := text :: machine.printedErrors }
  | .sleep _ => return ()

end Modeset.Simulation
