import ScenarioCheck.Cli.Options
import ScenarioCheck.Json
import ScenarioCheck.Project.Configuration
import ScenarioCheck.Report.Terminal

/-! Reports on their way out: to the standard output, which may refuse a text, or to a file, which
may not be writable. -/
namespace ScenarioCheck.Cli

open Project

structure Console where
  isTerminal : Bool := false
  /-- Why a text cannot be written, for example since the encoding has no such character. -/
  refusal? : String → Option String := fun _ => none

inductive Blockage where
  | refused (reason : String)
  | unwritten (path : Path) (fault : OpenFault)

def Blockage.message : Blockage → String
  | .refused reason => reason
  | .unwritten path fault => fault.message path

inductive Delivery where
  | printed (text : String)
  | saved (file : Path) (text : String)
  deriving DecidableEq, Inhabited, Repr

namespace Delivery

def output : Delivery → String
  | printed text => text
  | saved _ _ => ""

def disk (w : Workplace) : Delivery → Disk
  | printed _ => w.disk
  | saved file text => ((w.disk.save (w.absolute file) text.toUTF8).toOption).getD w.disk

end Delivery

/-- Prints entries up to the first one that is refused. What was printed before it stays. -/
def Console.print (c : Console) (entries : List String) : Delivery × Option Blockage :=
  (.printed (Report.textOf (entries.takeWhile fun entry => (c.refusal? entry).isNone)),
    (entries.findSome? c.refusal?).map .refused)

/-- A report in both formats: the entries for people, and the data for tools. -/
structure Contents where
  entries : List String
  data : Json

/-- Puts data out: to a file if one is named, which holds it without a line end. -/
def emit (w : Workplace) (c : Console) (file? : Option Path) (data : Json) :
    Delivery × Option Blockage :=
  match file? with
  | none => c.print [data.pretty]
  | some file =>
    match w.disk.save (w.absolute file) data.pretty.toUTF8 with
    | .ok _ => (.saved file data.pretty, none)
    | .error fault => (.printed "", some (.unwritten file fault))

def present (w : Workplace) (c : Console) (o : Options) (report : Contents) :
    Delivery × Option Blockage :=
  match o.format with
  | .terminal => c.print report.entries
  | .json => emit w c o.output? report.data

end ScenarioCheck.Cli
