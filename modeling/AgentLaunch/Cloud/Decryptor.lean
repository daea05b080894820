import AgentLaunch.Configuration
import AgentLaunch.Error
import AgentLaunch.Secret
import AgentLaunch.Text.Base64
import AgentLaunch.Tool

/-!
# Decrypting passwords

The cloud encrypts a password for the key pair of its instance.  The private key opens it: the
material is Base64 text, and the bytes in it go through the usual program for keys.

Where the configuration supplies the password there is nothing to decrypt.
-/

namespace AgentLaunch.Cloud

inductive Decryptor where
  /-- The holder of a private key, which is in a file. -/
  | keyFile (path : String)
  /-- Nobody. -/
  | unused
  deriving DecidableEq, Repr, Inhabited

namespace Decryptor

def ofConfiguration (c : Configuration) : Except ConfigurationError Decryptor :=
  match c.launch.security, c.aws.privateKey with
  | .derivedPassword, some path => .ok (.keyFile path)
  | .derivedPassword, none => .error .keyRequired
  | .suppliedPassword, _ => .ok .unused

/-- The run of the program that decrypts some bytes. -/
def invocation (path : String) (encrypted : Bytes) : Tool.Invocation where
  program := "openssl"
  arguments := ["pkeyutl", "-decrypt", "-inkey", path, "-pkeyopt", "rsa_padding_mode:pkcs1"]
  input := some encrypted

def decrypt (decryptor : Decryptor) (material : String) : Errand (Except CloudError Secret) :=
  match decryptor with
  | unused => pure (.error (.decrypt "no private key configured"))
  | keyFile path =>
    match Base64.decode? (Text.trim material).toList with
    | none => pure (.error (.decrypt "password data is not base64: "))
    | some encrypted => do
      match ← Tool.invoke (invocation path encrypted) with
      | .error e => pure (.error (.io e.text))
      | .ok ending =>
        if ending.succeeded then
          match Utf8.decode? ending.stdout with
          | some password => pure (.ok ⟨password⟩)
          | none => pure (.error (.decrypt "decrypted password is not UTF-8"))
        else pure (.error (.decrypt ending.complaint))

end Decryptor

end AgentLaunch.Cloud
