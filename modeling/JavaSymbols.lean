import JavaSymbols.DeclTree.CoreLibrary
import JavaSymbols.Fields
import JavaSymbols.Methods
import JavaSymbols.Proofs.Assignment.Preorder
import JavaSymbols.Proofs.DeclTree.Links
import JavaSymbols.Proofs.DeclTree.Nesting
import JavaSymbols.Proofs.Fields.Answers
import JavaSymbols.Proofs.Fields.Resolved
import JavaSymbols.Proofs.Methods.Accessors
import JavaSymbols.Proofs.Methods.Choice
import JavaSymbols.Proofs.Methods.Nearest
import JavaSymbols.Proofs.Methods.Specific
import JavaSymbols.Proofs.Methods.Totality
import JavaSymbols.Proofs.Methods.Usage
import JavaSymbols.Proofs.Resolution.Parameters
import JavaSymbols.Proofs.Resolution.Printed
import JavaSymbols.Proofs.Search.Answers
import JavaSymbols.Proofs.Session.BestEffort
import JavaSymbols.Proofs.Session.Deferral
import JavaSymbols.Proofs.Session.Enumeration
import JavaSymbols.Proofs.Session.Events
import JavaSymbols.Proofs.Session.Memos
import JavaSymbols.Proofs.Session.UnusedLists
import JavaSymbols.Proofs.Subtyping.Agreement
import JavaSymbols.Proofs.Subtyping.Bounds
import JavaSymbols.Proofs.Subtyping.Erasure
import JavaSymbols.Proofs.Subtyping.Identity
import JavaSymbols.Proofs.Subtyping.Strict
import JavaSymbols.Proofs.Text.Dotted
import JavaSymbols.Proofs.Views.Agreement
import JavaSymbols.Proofs.Views.Composition
import JavaSymbols.Settings.File
import JavaSymbols.Settings.LogFilter
import JavaSymbols.Settings.Schema
