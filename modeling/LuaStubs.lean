import LuaStubs.Descriptor.Decode
import LuaStubs.Descriptor.Encode
import LuaStubs.Docs
import LuaStubs.Encoding.Base64
import LuaStubs.Encoding.Percent
import LuaStubs.Export
import LuaStubs.Repository.Collection
import LuaStubs.Log.Filter
import LuaStubs.Remote.Source
import LuaStubs.Main
import LuaStubs.Proofs.Keyed
import LuaStubs.Proofs.Results
import LuaStubs.Proofs.Text.Utf8
import LuaStubs.Proofs.Text.ByteOrder
import LuaStubs.Proofs.Text.Affix
import LuaStubs.Proofs.Encoding.Base64
import LuaStubs.Proofs.Encoding.Percent
import LuaStubs.Proofs.Url.Parser
import LuaStubs.Proofs.Url.Authority
import LuaStubs.Proofs.Json.Spelling
import LuaStubs.Proofs.Json.Layout
import LuaStubs.Proofs.Json.Text
import LuaStubs.Proofs.Json.Numeral
import LuaStubs.Proofs.Json.Tree
import LuaStubs.Proofs.Json.Reading
import LuaStubs.Proofs.Json.Parsing
import LuaStubs.Proofs.Json.Schema
import LuaStubs.Proofs.Json.Fields
import LuaStubs.Proofs.Json.Skim
import LuaStubs.Proofs.Descriptor.Schema
import LuaStubs.Proofs.Descriptor.Canonical
import LuaStubs.Proofs.Descriptor.RoundTrip
import LuaStubs.Proofs.Descriptor.Acceptance
import LuaStubs.Proofs.Lua.Document
import LuaStubs.Proofs.Lua.Resolution
import LuaStubs.Proofs.Lua.Events
import LuaStubs.Proofs.Lua.Lines
import LuaStubs.Proofs.Lua.Skeleton
import LuaStubs.Proofs.Lua.Inertness
import LuaStubs.Proofs.Lua.Naming
import LuaStubs.Proofs.Lua.Receivers
import LuaStubs.Proofs.Lua.Variadic
import LuaStubs.Proofs.Lua.Omission
import LuaStubs.Proofs.Repository.Collection
import LuaStubs.Proofs.Repository.Order
import LuaStubs.Proofs.Repository.Fetching
import LuaStubs.Proofs.Repository.Insertion
import LuaStubs.Proofs.Files.Path
import LuaStubs.Proofs.Files.FileSystem
import LuaStubs.Proofs.Files.Glob
import LuaStubs.Proofs.Files.Search
import LuaStubs.Proofs.Files.Descent
import LuaStubs.Proofs.Files.Arrival
import LuaStubs.Proofs.Remote.Payload
import LuaStubs.Proofs.Remote.Request
import LuaStubs.Proofs.Remote.Reference
import LuaStubs.Proofs.Remote.Reply
import LuaStubs.Proofs.Remote.Source
import LuaStubs.Proofs.Remote.Confinement
import LuaStubs.Proofs.Remote.Contents
import LuaStubs.Proofs.Checkout
import LuaStubs.Proofs.Listing
import LuaStubs.Proofs.Export
import LuaStubs.Proofs.Agreement
import LuaStubs.Proofs.Files.Change
import LuaStubs.Proofs.Program
import LuaStubs.Proofs.Files.Description
import LuaStubs.Proofs.ListedFiles
import LuaStubs.Proofs.Lua.Quoting
import LuaStubs.Proofs.Lua.EnumLines
import LuaStubs.Proofs.Lua.Subscriptions
import LuaStubs.Proofs.Log.Filter
import LuaStubs.Proofs.Descriptor.EnumTable
import LuaStubs.Proofs.Json.Binary64
import LuaStubs.Proofs.Json.Shortest
import LuaStubs.Proofs.Json.Printing
import LuaStubs.Proofs.Json.Kept
import LuaStubs.Proofs.Descriptor.Literal
