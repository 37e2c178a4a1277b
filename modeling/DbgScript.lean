import DbgScript.Lib.Runs
import DbgScript.Lib.Words
import DbgScript.Common
import DbgScript.Host.Context
import DbgScript.Support.MessageBuffer
import DbgScript.Support.OutputCapture
import DbgScript.Host.CmdLine
import DbgScript.Host.HostArgs
import DbgScript.Host.Frames
import DbgScript.Host.Interfaces
import DbgScript.Host.Commands
import DbgScript.Host.Session
import DbgScript.Host.LiveProviders
import DbgScript.Host.Teardown
import DbgScript.Host.Recycling
import DbgScript.Host.InterfaceUse
import DbgScript.Lib.Ledger
import DbgScript.Host.ReferenceBalance
import DbgScript.Host.Selection
import DbgScript.Host.ScriptArgs
import DbgScript.Lib.Guards
import DbgScript.Support.DebuggerScope
import DbgScript.Lib.Memo
import DbgScript.Support.SymbolCache
import DbgScript.Lib.Dialogue
import DbgScript.Lib.Utf
import DbgScript.Lib.LuaApi
import DbgScript.Lib.LinkedList
import DbgScript.Support.Requests
import DbgScript.Support.TypedObject
import DbgScript.Lua.TypedObject
import DbgScript.Ruby.TypedObject
import DbgScript.Python.Api
import DbgScript.Python.TypedObject
import DbgScript.Providers.IntegerValues
import DbgScript.Providers.InvalidTypedData
import DbgScript.Python.Functions
import DbgScript.Support.Locals
import DbgScript.Lua.Objects
import DbgScript.Lua.UninitialisedMemory
import DbgScript.Python.ErrorProtocol
import DbgScript.Providers.StackFrames
import DbgScript.Host.Cleanups
import DbgScript.Host.ModuleBalance
import DbgScript.Host.ConsoleFrames
import DbgScript.Host.BufferingEnds
import DbgScript.Host.BufferOutputCalls
import DbgScript.Support.NearestSymbol
import DbgScript.Support.QueryResults
import DbgScript.Support.OutputRouting
import DbgScript.Providers.ArrayIndex
import DbgScript.Providers.StringReads
import DbgScript.Providers.WideStrings
import DbgScript.Support.ScriptLookup
import DbgScript.Lua.ScriptProvider
import DbgScript.Lua.PackagePath
import DbgScript.Lua.StandardInput
import DbgScript.Host.ScriptPath
import DbgScript.Ruby.Objects
import DbgScript.Providers.SymbolObjects
import DbgScript.Providers.SymbolGroups
import DbgScript.Lib.LuaTables
import DbgScript.Lua.ClassProperties
import DbgScript.Lua.MemoryFunctions
import DbgScript.Providers.Counts
import DbgScript.Providers.ArrayLength
import DbgScript.Lib.Conversation
import DbgScript.Lua.Functions
import DbgScript.Providers.ApiRefinement
import DbgScript.Ruby.Functions
import DbgScript.Providers.ApiObjects
import DbgScript.Lua.ScriptApi
import DbgScript.Ruby.ScriptApi
import DbgScript.Python.ScriptApi
import DbgScript.Providers.Interchange
import DbgScript.Providers.Interrupts
import DbgScript.Lua.Interrupts
import DbgScript.Python.Interrupts
import DbgScript.Ruby.Interrupts
import DbgScript.Providers.InterruptRuns
import DbgScript.Providers.ScriptApi
import DbgScript.Python.ScriptProvider
import DbgScript.Ruby.ScriptProvider
