namespace MailPrefs

structure Environment where
  bytes? : String → Option (List UInt8)

def Environment.text? (vars : Environment) (name : String) : Option String :=
  (vars.bytes? name).bind fun bytes => String.fromUTF8? ⟨bytes.toArray⟩

end MailPrefs
