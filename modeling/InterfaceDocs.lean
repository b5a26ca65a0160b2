import InterfaceDocs.Attribute
import InterfaceDocs.Command.Arguments
import InterfaceDocs.Command.Run
import InterfaceDocs.Comment.Basic
import InterfaceDocs.Comment.Parser
import InterfaceDocs.Compiled.Declaration
import InterfaceDocs.Compiled.Signature
import InterfaceDocs.Compiled.Type
import InterfaceDocs.Config
import InterfaceDocs.Flag
import InterfaceDocs.Ident
import InterfaceDocs.Identifier
import InterfaceDocs.Json.Basic
import InterfaceDocs.Json.Compiled
import InterfaceDocs.Json.Leaf
import InterfaceDocs.Json.Lexer
import InterfaceDocs.Json.Parser
import InterfaceDocs.Json.Record
import InterfaceDocs.Json.Written
import InterfaceDocs.Load.CompiledDeclaration
import InterfaceDocs.Load.CompiledSignature
import InterfaceDocs.Load.CompiledType
import InterfaceDocs.Load.Docs
import InterfaceDocs.Load.Error
import InterfaceDocs.Load.Event
import InterfaceDocs.Load.Interface
import InterfaceDocs.Load.Reading
import InterfaceDocs.Load.VarNames
import InterfaceDocs.Load.WrittenDeclaration
import InterfaceDocs.Load.WrittenSignature
import InterfaceDocs.Load.WrittenType
import InterfaceDocs.Location
import InterfaceDocs.LongIdent
import InterfaceDocs.Main
import InterfaceDocs.Model.Declaration
import InterfaceDocs.Model.Signature
import InterfaceDocs.Model.Type
import InterfaceDocs.Name
import InterfaceDocs.Path
import InterfaceDocs.Print.Interface
import InterfaceDocs.Print.Layout
import InterfaceDocs.Reference
import InterfaceDocs.Scope.Basic
import InterfaceDocs.Scope.Binding
import InterfaceDocs.Scope.Shape
import InterfaceDocs.Text.Blank
import InterfaceDocs.Text.Extender
import InterfaceDocs.Text.Letter
import InterfaceDocs.Text.Quoted
import InterfaceDocs.Text.Ranges
import InterfaceDocs.Text.Split
import InterfaceDocs.Text.Unprinted
import InterfaceDocs.Variance
import InterfaceDocs.Written.Declaration
import InterfaceDocs.Written.Signature
import InterfaceDocs.Written.Type
import InterfaceDocs.Proofs.Backed.Scope
import InterfaceDocs.Proofs.Model.Declared
import InterfaceDocs.Proofs.Backed.Binding
import InterfaceDocs.Proofs.Backed.Type
import InterfaceDocs.Proofs.Backed.Declaration
import InterfaceDocs.Proofs.Backed.Signature
import InterfaceDocs.Proofs.Spread.Basic
import InterfaceDocs.Proofs.Spread.Declaration
import InterfaceDocs.Proofs.Spread.Signature
import InterfaceDocs.Proofs.Renumber.Basic
import InterfaceDocs.Proofs.Renumber.Tree
import InterfaceDocs.Proofs.Renumber.Scope
import InterfaceDocs.Proofs.Renumber.Type
import InterfaceDocs.Proofs.Renumber.Declaration
import InterfaceDocs.Proofs.Renumber.Signature
import InterfaceDocs.Proofs.Visit.Basic
import InterfaceDocs.Proofs.Visit.Tree
import InterfaceDocs.Proofs.Visit.Scope
import InterfaceDocs.Proofs.Visit.Type
import InterfaceDocs.Proofs.Visit.Declaration
import InterfaceDocs.Proofs.Visit.Signature
import InterfaceDocs.Proofs.Bare.Scope
import InterfaceDocs.Proofs.Model.Bare
import InterfaceDocs.Proofs.Agreement
import InterfaceDocs.Proofs.Bare.Type
import InterfaceDocs.Proofs.Bare.Declaration
import InterfaceDocs.Proofs.Bare.Signature
import InterfaceDocs.Proofs.Component.Scope
import InterfaceDocs.Proofs.Component.Record
import InterfaceDocs.Proofs.Reparent
import InterfaceDocs.Proofs.Image.Tree
import InterfaceDocs.Proofs.SameValue
import InterfaceDocs.Proofs.Image.Scope
import InterfaceDocs.Proofs.Image.Type
import InterfaceDocs.Proofs.Image.Declaration
import InterfaceDocs.Proofs.Image.Signature
import InterfaceDocs.Proofs.Hygiene.Tree
import InterfaceDocs.Proofs.Hygiene.Scope
import InterfaceDocs.Proofs.Hygiene.Type
import InterfaceDocs.Proofs.Hygiene.Declaration
import InterfaceDocs.Proofs.Hygiene.Signature
import InterfaceDocs.Proofs.Placement
import InterfaceDocs.Proofs.Json.Record
import InterfaceDocs.Proofs.Json.Leaf
import InterfaceDocs.Proofs.Json.Compiled
import InterfaceDocs.Proofs.Json.Written
import InterfaceDocs.Proofs.WellFormed.Model
import InterfaceDocs.Proofs.WellFormed.Scope
import InterfaceDocs.Proofs.WellFormed.Type
import InterfaceDocs.Proofs.WellFormed.Declaration
import InterfaceDocs.Proofs.WellFormed.Signature
import InterfaceDocs.Proofs.Fragment
import InterfaceDocs.Proofs.Knowledge.Scope
import InterfaceDocs.Proofs.Knowledge.Binding
import InterfaceDocs.Proofs.Knowledge.Module
import InterfaceDocs.Proofs.VarNames.Basic
import InterfaceDocs.Proofs.VarNames.Declaration
import InterfaceDocs.Proofs.VarNames.Shown
import InterfaceDocs.Proofs.Rewrite.Signature
import InterfaceDocs.Proofs.Collapse
import InterfaceDocs.Proofs.Resolution
import InterfaceDocs.Proofs.Alias
import InterfaceDocs.Proofs.Grouping
import InterfaceDocs.Proofs.Parameter.Source
import InterfaceDocs.Proofs.Parameter.Place
import InterfaceDocs.Proofs.Parameter.Numbering
import InterfaceDocs.Proofs.Substitution
import InterfaceDocs.Proofs.Text
import InterfaceDocs.Proofs.Comment.Reading
import InterfaceDocs.Proofs.Comment.Code
import InterfaceDocs.Proofs.Comment.Fault
import InterfaceDocs.Proofs.Comment.Content
import InterfaceDocs.Proofs.Comment.Rendering
import InterfaceDocs.Proofs.Dotted
import InterfaceDocs.Proofs.Printed
import InterfaceDocs.Proofs.Comment.Joining
import InterfaceDocs.Proofs.Documentation
