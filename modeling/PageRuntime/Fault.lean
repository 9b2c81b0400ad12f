import PageRuntime.Text.Quoted

/-! What can go wrong, by cause. Each fault carries the texts its message shows; `className` and
`message` are the two words a report prints. Faults of misuse, such as converting a list to a
number, carry their class and their wording with them. -/
namespace PageRuntime

/-- Why a text is no path. Texts are shown quoted, positions count characters of the trimmed
text. -/
inductive PathFault
  | notText (typeName : String)
  | empty
  | contextName (shown : String)
  | start (shown : String)
  | fieldExpected (shown : String) (position : Nat)
  | unexpected (shown : String) (position : Nat)
deriving DecidableEq

/-- Why a value cannot be written where a reference points. -/
inductive WriteFault
  | keyOnList (key : String)
  | notContainer (key typeName : String)
  | nullRoot (root : String)
  | fixedRoot (root : String)
  | notSequence (setop typeName location : String)
  | notMapping (typeName location : String)
  | unknownSetop (shown : String)
deriving DecidableEq

/-- A text or value that does not fit a standard format. -/
inductive FormatFault
  | json
  | yaml
  | unrepresentable
  | pattern
  | base64
  | url
deriving DecidableEq

/-- Classes shared by faults of misuse and by failures that the host raises. -/
inductive FaultClass
  | type
  | value
  | key
  | member
  | position
  | overflow
  | recursion
  | runtime
deriving DecidableEq

inductive Fault
  | invalidRoot (name : String)
  | invalidCaret (shown : String)
  | invalidHandlerPath (shown : String)
  | unknownModule (name path : String)
  | invalidMethod (shown : String)
  | invalidUrl (shown reason : String)
  | fetchParams (url typeName : String)
  | badStatus (url status : String)
  | noBlob (selector : String)
  | malformedAction (reason shown : String)
  | unhandledEvent (event : String)
  | handlerFailed (text : String)
  | general (text : String)
  | path (fault : PathFault)
  | write (fault : WriteFault)
  | format (fault : FormatFault)
  | cyclicCopy
  | cyclicPlain
  | nodeWithoutTag (shown : String)
  | noParser
  | badDocument (typeName : String)
  | blockNotList (typeName : String)
  | unknownStep (shown : String)
  | fireData (typeName : String)
  | reservedRoot (name : String)
  | unsupportedFormat (shown : String)
  | settingsNotMapping (typeName : String)
  | settingsSource (typeName : String)
  | severity (shown kind : String)
  | released
  | host (fault : FaultClass) (text : String)
  | misuse (fault : FaultClass) (detail : String)
deriving DecidableEq

namespace PathFault

def message : PathFault → String
  | notText typeName => "path must be a string, got " ++ typeName
  | empty => "empty path"
  | contextName shown => "Invalid context path " ++ shown
  | start shown => "Invalid path " ++ shown ++ ", paths start with '$' or '@'"
  | fieldExpected shown position =>
    "Invalid path " ++ shown ++ ", expected a field name at position " ++ toString position
  | unexpected shown position => "Invalid path " ++ shown ++ " at position " ++ toString position

end PathFault

namespace WriteFault

def message : WriteFault → String
  | keyOnList key => "cannot set key " ++ key ++ " on a list"
  | notContainer key typeName => "cannot set " ++ key ++ " on a value of type " ++ typeName
  | nullRoot root => "cannot set into null root " ++ root
  | fixedRoot root => "cannot rebind root " ++ root
  | notSequence setop typeName location =>
    "cannot " ++ setop ++ " to a value of type " ++ typeName ++ " at " ++ location
  | notMapping typeName location =>
    "cannot merge into a value of type " ++ typeName ++ " at " ++ location
  | unknownSetop shown => "unknown setop " ++ shown

def className : WriteFault → String
  | unknownSetop _ => "ValueError"
  | _ => "TypeError"

end WriteFault

namespace FormatFault

def className : FormatFault → String
  | json => "JSONDecodeError"
  | yaml => "YAMLError"
  | unrepresentable => "YAMLError"
  | pattern => "RegexError"
  | base64 => "Base64Error"
  | url => "BadURL"

def message : FormatFault → String
  | json => "invalid json"
  | yaml => "invalid yaml"
  | unrepresentable => "cannot represent"
  | pattern => "invalid regex"
  | base64 => "invalid base64"
  | url => "bad url"

end FormatFault

def FaultClass.name : FaultClass → String
  | type => "TypeError"
  | value => "ValueError"
  | key => "KeyError"
  | member => "AttributeError"
  | position => "IndexError"
  | overflow => "OverflowError"
  | recursion => "RecursionError"
  | runtime => "RuntimeError"

namespace Fault

def className : Fault → String
  | invalidRoot _ => "InvalidRoot"
  | invalidCaret _ => "InvalidCaret"
  | invalidHandlerPath _ => "InvalidHandlerPath"
  | unknownModule _ _ => "ModuleNotFound"
  | invalidMethod _ => "InvalidMethod"
  | invalidUrl _ _ => "InvalidURL"
  | fetchParams _ _ => "BadFetchParams"
  | badStatus _ _ => "BadStatus"
  | noBlob _ => "NoBlobToExtend"
  | malformedAction _ _ => "MalformedAction"
  | unhandledEvent _ => "UnhandledEvent"
  | handlerFailed _ => "HandlerExecutionError"
  | general _ => "HibikiError"
  | path _ => "ValueError"
  | write fault => fault.className
  | format fault => fault.className
  | cyclicCopy => "ValueError"
  | cyclicPlain => "ValueError"
  | nodeWithoutTag _ => "ValueError"
  | noParser => "ValueError"
  | badDocument _ => "TypeError"
  | blockNotList _ => "ValueError"
  | unknownStep _ => "ValueError"
  | fireData _ => "ValueError"
  | reservedRoot _ => "ValueError"
  | unsupportedFormat _ => "ValueError"
  | settingsNotMapping _ => "ValueError"
  | settingsSource _ => "TypeError"
  | severity _ _ => "ValueError"
  | released => "ReferenceError"
  | host fault _ => fault.name
  | misuse fault _ => fault.name

/-- The text a fault was raised with, before its class shapes it. -/
def argument : Fault → String
  | invalidRoot name => "Invalid root path '" ++ name ++ "'"
  | invalidCaret shown => "Invalid caret value " ++ shown ++ ", must be 0 or 1"
  | invalidHandlerPath shown => "Invalid handler path: " ++ shown
  | unknownModule name requested =>
    "Invalid handler, no module '" ++ name ++ "' found for path: " ++ requested
  | invalidMethod shown => "Invalid method passed to /@fetch:[method]: " ++ shown
  | invalidUrl shown reason =>
    "Invalid URL passed to fetch " ++ shown ++ (if reason.isEmpty then "" else ": " ++ reason)
  | fetchParams url typeName =>
    "Invalid params passed to /@fetch for url '" ++ url ++ "', params must be an object not " ++
      typeName
  | badStatus url status => "Bad status code response from '" ++ url ++ "': " ++ status
  | noBlob selector => "Bad blobext:" ++ selector ++ ", no blob to extend"
  | malformedAction reason shown => "Malformed action (" ++ reason ++ "): " ++ shown
  | unhandledEvent event => "Unhandled event '" ++ event ++ "'"
  | handlerFailed text => text
  | general text => text
  | path fault => fault.message
  | write fault => fault.message
  | format fault => fault.message
  | cyclicCopy => "cannot copy a cyclic value"
  | cyclicPlain => "cannot convert a cyclic value"
  | nodeWithoutTag shown => "node dict requires a 'tag': " ++ shown
  | noParser => "cannot replace document from markup, no html parser configured"
  | badDocument typeName => "invalid document payload of type " ++ typeName
  | blockNotList typeName => "handler block must be a list of steps, got " ++ typeName
  | unknownStep shown => "unknown handler step: " ++ shown
  | fireData typeName => "fire data must be a mapping, got " ++ typeName
  | reservedRoot name => "cannot register reserved root name '" ++ name ++ "'"
  | unsupportedFormat shown => "Unsupported serialization format: " ++ shown
  | settingsNotMapping typeName => "config must be a mapping, got " ++ typeName
  | settingsSource typeName => "cannot load config from " ++ typeName
  | severity shown kind =>
    "invalid severity " ++ shown ++ " for action kind " ++ kind ++
      ", expected one of ('log', 'raise')"
  | released => "the HibikiState owning this scope has been released"
  | host _ text => text
  | misuse _ detail => detail

/-- A missing key is reported by the key, quoted. -/
def message : Fault → String
  | host .key text => Text.quote text
  | misuse .key detail => Text.quote detail
  | fault => fault.argument

/-- Whether the message is fixed, rather than free wording about a misuse. -/
def hasFixedMessage : Fault → Bool
  | misuse _ _ => false
  | _ => true

end Fault

end PageRuntime
