import SecretTemplate.Text.Blank
import SecretTemplate.Text.Search
import SecretTemplate.Text.Case
import SecretTemplate.Text.Percent
import SecretTemplate.Transform
import SecretTemplate.Dialogue
import SecretTemplate.Secret.Store
import SecretTemplate.Template.Patch
import SecretTemplate.Vault.Envelope
import SecretTemplate.Vault.Endpoint
import SecretTemplate.Url.Address
import SecretTemplate.Url.Domain.Ascii
import SecretTemplate.Url.Parser
import SecretTemplate.Vault.Environment
import SecretTemplate.Vault.Client
import SecretTemplate.Http.Script
import SecretTemplate.FileTree.Layout
import SecretTemplate.FileTree.Patch
import SecretTemplate.Release
import SecretTemplate.CommandLine.Run
import SecretTemplate.Tour
import SecretTemplate.Main
import SecretTemplate.Proofs.Secret.Reading
import SecretTemplate.Proofs.Secret.Place
import SecretTemplate.Proofs.Secret.Stages
import SecretTemplate.Proofs.Template.Sequence
import SecretTemplate.Proofs.Reference.RoundTrip
import SecretTemplate.Proofs.Reference.Grammar
import SecretTemplate.Proofs.Template.Splice
import SecretTemplate.Proofs.Template.Draft
import SecretTemplate.Proofs.Text.Bytes
import SecretTemplate.Proofs.Text.Blank
import SecretTemplate.Proofs.Text.Base64.Spelling
import SecretTemplate.Proofs.Text.Base64.Decoding
import SecretTemplate.Proofs.Transform.Base64
import SecretTemplate.Proofs.Transform.Case
import SecretTemplate.Proofs.Url.Segments
import SecretTemplate.Proofs.Url.Domain
import SecretTemplate.Proofs.Url.Site
import SecretTemplate.Proofs.Url.Userinfo
import SecretTemplate.Proofs.Vault.Target
import SecretTemplate.Proofs.Vault.Authority
import SecretTemplate.Proofs.Dialogue.Course
import SecretTemplate.Proofs.Vault.Exchange
import SecretTemplate.Proofs.Vault.Confidential
import SecretTemplate.Proofs.Template.Agreement
import SecretTemplate.Proofs.Vault.Service
import SecretTemplate.Proofs.Vault.Mirror
import SecretTemplate.Proofs.Template.Independence
import SecretTemplate.Proofs.Template.Scan
import SecretTemplate.Proofs.Template.Lines
import SecretTemplate.Proofs.FileTree.Writing
import SecretTemplate.Proofs.FileTree.Rewriting
import SecretTemplate.Proofs.CommandLine.Ending
import SecretTemplate.Proofs.CommandLine.Effects
import SecretTemplate.Proofs.CommandLine.Modes
import SecretTemplate.Proofs.FileTree.Expansion
import SecretTemplate.Proofs.Vault.Escaping
import SecretTemplate.Proofs.Vault.Address
import SecretTemplate.Proofs.Json.Fields
import SecretTemplate.Proofs.Vault.Shape
import SecretTemplate.Proofs.Secret.Kinds
import SecretTemplate.Proofs.Vault.Verdict
import SecretTemplate.Proofs.Json.Grammar
import SecretTemplate.Proofs.Json.Unseen
import SecretTemplate.Proofs.Vault.Revision
import SecretTemplate.Proofs.Vault.Environment
