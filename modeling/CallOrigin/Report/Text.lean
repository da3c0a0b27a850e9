import CallOrigin.Calls.ApiCall

/-! # The report as text

One block of lines for each call, which a line of dashes begins. -/

namespace CallOrigin.Report

def divider : String :=
  String.ofList (List.replicate 56 '-')

def methodText (m : Method) : String :=
  m.name ++ " (File: " ++ m.file ++ ")"

/-- The lines about the control bound to the outermost method. -/
def controlLines : Option Control → List String
  | some c => ["ASPX file: " ++ c.file, "Button text: " ++ c.text]
  | none => ["ASPX file not found for this event."]

def callLines (c : ApiCall) : List String :=
  [divider,
   "API called in file: " ++ c.file,
   "API method: " ++ c.api,
   "Endpoint: " ++ c.endpoint,
   "Immediate method: " ++ methodText c.caller,
   "Top-level method: " ++ methodText c.topOrCaller] ++ controlLines c.control

def callText (c : ApiCall) : String :=
  "\n".intercalate (callLines c) ++ "\n"

def text (calls : List ApiCall) : String :=
  String.join (calls.map callText)

end CallOrigin.Report
