import TboxDiag.DiagIpcDispatcher
import TboxDiag.HexInput
import TboxDiag.RawCommand
import TboxDiag.RealProvAdapter

/-!
# CliCommands

The command line client. It is a service of its own: each call of the program connects to PROV and
SEC, initialises a fresh `DiagService`, puts the requests of one command to it, prints, and ends.
Arguments and lines are byte strings. The two connections come from outside (`Environment`), with
the adapters they carry behind the handles `prov` and `sec`.
-/

namespace Tbox
namespace Diag

open Effects

namespace DiagCli

/-! ## Output -/

inductive Line where
  | out (text : Bytes)
  | err (text : Bytes)
  /-- The text of `print_usage`. -/
  | usage
  deriving DecidableEq, Repr

def out (text : String) : Line := .out (asciiBytes text)

def err (text : String) : Line := .err (asciiBytes text)

/-- How the process ends; an exception that nothing catches terminates it. -/
inductive Exit where
  | code (n : Nat)
  | terminated
  deriving DecidableEq, Repr

def hexChar (n : Nat) : UInt8 := UInt8.ofNat (if n < 10 then 0x30 + n else 0x37 + n)

/-- `%02X`. -/
def hexByte (b : UInt8) : Bytes := [hexChar (b.toNat / 16), hexChar (b.toNat % 16)]

/-- The bytes in hexadecimal, with a blank before each but the first. -/
def bytesToHex : Bytes → Bytes
  | [] => []
  | [b] => hexByte b
  | b :: bs => hexByte b ++ 0x20 :: bytesToHex bs

def printResponse (response : DiagResponse) : List Line :=
  if response.positive then
    [out "Positive Response:", out ("  Service ID: " ++ hex2 response.serviceId)] ++
    (if response.subFunction ≠ 0 then [out ("  Sub Function: " ++ hex2 response.subFunction)]
      else []) ++
    (if response.payload.isEmpty then []
      else [.out (asciiBytes "  Payload: " ++ bytesToHex response.payload)])
  else
    [out "Negative Response:", out ("  NRC: " ++ hex2 response.nrc)] ++
    (if response.diagErrorCode.isEmpty then []
      else [out ("  Error Code: " ++ response.diagErrorCode)])

/-! ## Requests -/

def sessionId? (sessionType : Bytes) : Option UInt8 :=
  if sessionType = asciiBytes "default" then some SessionType.default.code
  else if sessionType = asciiBytes "extended" then some SessionType.extended.code
  else if sessionType = asciiBytes "programming" then some SessionType.programming.code
  else none

def sessionRequest (sessionId : UInt8) : DiagRequest :=
  { cliRequest with
    serviceId := UdsService.diagnosticSessionControl, subFunction := sessionId }

def testerPresentRequest : DiagRequest :=
  { cliRequest with serviceId := UdsService.testerPresent, subFunction := 0x00 }

def seedRequest (level : UInt8) : DiagRequest :=
  { cliRequest with serviceId := UdsService.securityAccess, subFunction := level }

/-- The bit that is set is the suppress bit, not the sendKey level. -/
def keyRequest (level : UInt8) (key : Bytes) : DiagRequest :=
  { cliRequest with
    serviceId := UdsService.securityAccess, subFunction := level ||| 0x80, payload := key }

def readRequest (did : UInt16) : DiagRequest :=
  { cliRequest with serviceId := UdsService.readDataByIdentifier, didOrRid := did }

def routineRequest (rid : UInt16) (payload : Bytes) : DiagRequest :=
  { cliRequest with
    serviceId := UdsService.routineControl, subFunction := 0x01, didOrRid := rid, payload }

/-! ## Commands -/

/-- Put a request to the service and print the response. -/
def send (service : DiagService) (request : DiagRequest) : M (Exit × List Line) := do
  let (response, _) ← service.processRequest request
  pure (.code 0, printResponse response)

def readVin (service : DiagService) : M (Exit × List Line) := do
  let (response, _) ← service.processRequest (readRequest Did.vin)
  -- the DID echo is skipped
  let vin := if response.positive ∧ 2 < response.payload.length
    then [.out (asciiBytes "  VIN: " ++ response.payload.drop 2)] else []
  pure (.code 0, printResponse response ++ vin)

def readCsr (service : DiagService) : M (Exit × List Line) := do
  let (response, _) ← service.processRequest (routineRequest Rid.readCsr [])
  let csr := if response.positive ∧ ¬ response.payload.isEmpty
    then [.out (asciiBytes "  CSR (hex): " ++ bytesToHex response.payload)] else []
  pure (.code 0, printResponse response ++ csr)

/-- The key the client has for a seed. -/
def keyOfSeed (seed : Bytes) : Bytes := seed.map fun b => b ^^^ 0x01

def writeVin (service : DiagService) (vin : Bytes) : M (Exit × List Line) := do
  let (sessionResp, service) ← service.processRequest (sessionRequest SessionType.extended.code)
  if !sessionResp.positive then
    pure (.code 1, err "Failed to switch session" :: printResponse sessionResp)
  else do
    let (seedResp, service) ← service.processRequest (seedRequest 0x01)
    if !seedResp.positive then
      pure (.code 1, err "Failed to request seed" :: printResponse seedResp)
    else do
      let (keyResp, service) ← service.processRequest
        (keyRequest 0x02 (keyOfSeed seedResp.payload))
      if !keyResp.positive then
        pure (.code 1, err "Failed to verify key" :: printResponse keyResp)
      else
        -- the process ends with 0 whatever PROV answers
        send service (routineRequest Rid.writeVinRoutine vin)

def status (session : DiagSession) : List Line :=
  [out "Current Session Status:",
   out ("  Source Address: " ++ hex4 session.sourceAddress),
   out ("  Session Type: " ++ sessionToString session.sessionType),
   out ("  Session State: " ++ DiagIpcDispatcher.sessionStateText session.state),
   out ("  Security Unlocked: " ++ if session.securityUnlocked then "true" else "false"),
   out ("  Transport: " ++ if session.transport = .doip then "DoIP" else "DoCAN")]

/-- A command with its arguments. -/
def run (service : DiagService) (command : Bytes) (args : List Bytes) : M (Exit × List Line) :=
  if command = asciiBytes "init" then
    pure (.code 0, [out "DIAG service initialized successfully"])
  else if command = asciiBytes "session" then
    match args with
    | [] => pure (.code 1, [err "Usage: diag_cli session <type>",
        err "Types: default, extended, programming"])
    | sessionType :: _ =>
      match sessionId? sessionType with
      | none => pure (.code 1, [.err (asciiBytes "Invalid session type: " ++ sessionType)])
      | some sessionId => send service (sessionRequest sessionId)
  else if command = asciiBytes "tester_present" then send service testerPresentRequest
  else if command = asciiBytes "security_access" then
    match args with
    | [] => pure (.code 1, [err "Usage: diag_cli security_access <level>"])
    | level :: _ =>
      match stoi16 level with
      | none => pure (.terminated, [])
      | some level => send service (seedRequest (UInt8.ofInt level))
  else if command = asciiBytes "send_key" then
    match args with
    | level :: key :: _ =>
      match stoi16 level, hexToBytes key with
      | some level, some key => send service (keyRequest (UInt8.ofInt level) key)
      | _, _ => pure (.terminated, [])
    | _ => pure (.code 1, [err "Usage: diag_cli send_key <level> <hex_key>"])
  else if command = asciiBytes "read_vin" then readVin service
  else if command = asciiBytes "read_binding" then send service (readRequest Did.bindingState)
  else if command = asciiBytes "write_vin" then
    match args with
    | [] => pure (.code 1, [err "Usage: diag_cli write_vin <vin>"])
    | vin :: _ => writeVin service vin
  else if command = asciiBytes "generate_key_pair" then
    send service (routineRequest Rid.generateKeyPair [])
  else if command = asciiBytes "read_csr" then readCsr service
  else if command = asciiBytes "inject_cert" then
    match args with
    | [] => pure (.code 1, [err "Usage: diag_cli inject_cert <hex_cert>"])
    | cert :: _ =>
      match hexToBytes cert with
      | none => pure (.terminated, [])
      | some cert => send service (routineRequest Rid.injectCertificate cert)
  else if command = asciiBytes "raw" then
    match args with
    | [] => pure (.code 1, [err "Usage: diag_cli raw <hex_request>"])
    | hex :: _ =>
      match hexToBytes hex with
      | none => pure (.terminated, [])
      | some bytes =>
        match rawRequest bytes with
        | none => pure (.code 1, [err "Invalid hex request"])
        | some request => send service request
  else if command = asciiBytes "status" then
    pure (.code 0, status service.getCurrentSession)
  else
    pure (.code 1, [.err (asciiBytes "Unknown command: " ++ command), .usage])

/-! ## The program -/

/-- What the program finds when it starts: the message of a failed configuration load, the socket
paths, whether it could connect there, and the adapters on the connections. -/
structure Environment where
  configError : Option Bytes := none
  provPath : Bytes
  provConnects : Bool
  prov : ProvHandle
  secPath : Bytes
  secConnects : Bool
  sec : SecHandle

/-- The arguments from the command on; `none` when the options took all of them. -/
def skipOptions : List Bytes → Option (List Bytes)
  | option :: root :: args =>
    if option = asciiBytes "--config" then skipOptions args else some (option :: root :: args)
  | [arg] => some [arg]
  | [] => none

/-- When the options took all arguments, the index of the command has stayed at the first. -/
def commandLine (argv : List Bytes) : List Bytes := (skipOptions argv).getD argv

/-- `main`; `argv` is without the name of the program. -/
def main (env : Environment) (argv : List Bytes) : M (Exit × List Line) :=
  match commandLine argv with
  | [] => pure (.code 1, [.usage])
  | command :: args => do
    let warning := match env.configError with
      | none => []
      | some message => [.err (asciiBytes "Warning: Config load failed (" ++ message ++
          asciiBytes "), using default config")]
    if !env.provConnects then
      pure (.code 1, warning ++
        [.err (asciiBytes "Failed to connect to PROV IPC service at " ++ env.provPath)])
    else
      let lines := warning ++
        [.out (asciiBytes "Connected to PROV IPC service at " ++ env.provPath)]
      if !env.secConnects then
        pure (.code 1, lines ++
          [.err (asciiBytes "Failed to connect to SEC IPC service at " ++ env.secPath)])
      else do
        let lines := lines ++
          [.out (asciiBytes "Connected to SEC IPC service at " ++ env.secPath)]
        let service := (({} : DiagService).setProv (some env.prov)).setSec (some env.sec)
        let (result, service) ← service.initializeService
        if result ≠ .success then
          pure (.code 1, lines ++
            [err ("Failed to initialize DIAG service: " ++ toString (errorCodeValue result))])
        else do
          let (exit, printed) ← run service command args
          pure (exit, lines ++ printed)

end DiagCli
end Diag
end Tbox
