import MarkupLint.Code.Diagnosis
import MarkupLint.Script.Flow
import MarkupLint.Script.Scope
import MarkupLint.Text.Lines

set_option autoImplicit false

namespace MarkupLint.Script

def parse (text : List Char) : Except Fault Tree :=
  let reader : Reader :=
    { grammar := grammar, scan := Scan.ofText 1 text
      strings := Quotation.readStrings (2 * text.length + 1) }
  reader.run 0

def senseFault? (tree : Tree) : Option Fault :=
  match Flow.futureLine 0 none (Tree.membersOf tree.parts) with
  | .error fault => some fault
  | .ok line =>
      (Scope.fault? tree).orElse fun _ =>
        match Flow.walk { futureLine := line } .load tree with
        | .error fault => some fault
        | .ok _ => none

def prepare (code : String) : List Char :=
  let text := Text.unifyLineEnds code.toList
  if text.getLast? = some '\n' then text else text ++ ['\n']

def diagnose (code : String) : Option Code.Diagnosis :=
  if code.toList.contains '\x00' then some ⟨0, "source code string cannot contain null bytes"⟩
  else
    let fault? := match parse (prepare code) with
      | .error fault => some fault
      | .ok tree => senseFault? tree
    fault?.map fun fault => ⟨fault.line, fault.message⟩

end MarkupLint.Script
