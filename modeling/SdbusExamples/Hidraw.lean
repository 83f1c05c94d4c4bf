import Mathlib.Data.String.Basic

namespace SdbusExamples.Hidraw

abbrev UdevProperties := Std.ExtTreeMap String String

abbrev Table := Std.ExtTreeMap String String

/-- The devices that udev enumerates during one get_hidraw_devices(), by sysfs
path and in the order in which the unordered maps iterate over them. -/
structure Scan where
  input : List (String × UdevProperties)
  hidraw : List (String × UdevProperties)

def getUdevProperties (devices : List (String × UdevProperties))
    (matchParams : List (String × String)) : List (String × UdevProperties) :=
  devices.filter fun d => matchParams.all fun m => d.2[m.1]? = some m.2

def sysDevices : List Char := "/sys/devices/".toList

/-- std::string::find: where `sub` first occurs. -/
def find (sub : List Char) : List Char → Option Nat
  | [] => if sub.isEmpty then some 0 else none
  | c :: text =>
      if sub.isPrefixOf (c :: text) then some 0 else (find sub text).map (· + 1)

def commonPart (path sub : List Char) : Option (List Char) :=
  if sysDevices.isPrefixOf path then
    match find sub path with
    | some pos =>
        if pos < sysDevices.length then none
        else some ((path.drop sysDevices.length).take (pos - sysDevices.length))
    | none => none
  else none

def compareSubsystemDevicePaths (inputPath hidrawPath : String) : Bool :=
  match commonPart inputPath.toList "/input".toList, commonPart hidrawPath.toList "/hidraw".toList with
  | some inputCommon, some hidrawCommon => inputCommon = hidrawCommon
  | _, _ => false

def stripQuotes (serial : List Char) : List Char :=
  let serial := match serial with
    | '"' :: rest => rest
    | _ => serial
  if serial.getLast? = some '"' then serial.dropLast else serial

def createDeviceKeyFromSerialNumber (serialNumber : String) : String :=
  let converted := (stripQuotes serialNumber.toList).map Char.toUpper
  "dev_" ++ String.ofList (converted.map fun c => if c = ':' then '_' else c)

def associate (input hidraw : String × UdevProperties) (table : Table) : Table :=
  if compareSubsystemDevicePaths input.1 hidraw.1 then
    match hidraw.2["DEVNAME"]?, input.2["UNIQ"]? with
    | some hidrawDevName, some serialNumber =>
        table.insert (createDeviceKeyFromSerialNumber serialNumber) hidrawDevName
    | _, _ => table
  else table

def getHidrawDevices (matchParams : List (String × String)) (scan : Scan) : Bool × Table :=
  let inputDevices := getUdevProperties scan.input matchParams
  if inputDevices.isEmpty then (false, ∅)
  else
    let hidrawDevices := getUdevProperties scan.hidraw []
    (true, inputDevices.foldl
      (fun table input => hidrawDevices.foldl (fun table hidraw => associate input hidraw table) table)
      ∅)

/-- The empty string stands for a key without a node. -/
def findHidDevice (table : Table) (key : String) : String := table[key]?.getD ""

end SdbusExamples.Hidraw
