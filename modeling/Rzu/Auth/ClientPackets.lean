import Rzu.Packet.AnnouncedSize

/-!
# Packets of clients

The packets that the auth server deserializes, as they are declared.
-/

namespace Rzu
namespace Auth

open Library Packet

def since (epic : Version) : Condition := fun version _ =>
  atLeast epic version

def upTo (epic : Version) : Condition := fun version _ =>
  !atLeast epic version

def within (first last : Version) : Condition := fun version _ =>
  atLeast first version && !atLeast last version

def TS_ACCOUNT_ADDITIONAL_INFO : Struct :=
  Struct.field "type" always (Metatype.simple int8 int8 none)
    (Struct.field "data" always (Metatype.count uint16 Container.vector none)
      (Struct.field "data" always (Metatype.dynarray uint8 uint8)
        Struct.nil))

def TS_ACCOUNT_PASSWORD_DES : Struct :=
  Struct.field "password" (since EPIC_5_2) (Metatype.array uint8 uint8 61 none)
    (Struct.field "password" (upTo EPIC_5_2)
      (Metatype.array uint8 uint8 32 none) Struct.nil)

def TS_ACCOUNT_PASSWORD_AES : Struct :=
  Struct.field "password_size" always (Metatype.simple uint32 uint32 none)
    (Struct.field "password" (within EPIC_9_6_6 EPIC_9_6_7)
      (Metatype.array uint8 uint8 516 none)
      (Struct.field "password" (upTo EPIC_9_6_6)
        (Metatype.array uint8 uint8 77 none)
        (Struct.field "password_dyn" (since EPIC_9_6_7)
          (Metatype.endarray uint8 uint8) Struct.nil)))

def TS_CA_ACCOUNT : PacketType where
  getId _ := 10010
  fields :=
    Struct.field "account" (since EPIC_9_6_6) (Metatype.string 56 none)
      (Struct.field "account" (within EPIC_5_2 EPIC_9_6_6)
        (Metatype.string 61 none)
        (Struct.field "account" (upTo EPIC_5_2) (Metatype.string 19 none)
          (Struct.field "mac_stamp" (since EPIC_9_6_6)
            (Metatype.array uint8 uint8 8 none)
            (Struct.object "passwordDes" (upTo EPIC_8_1_1_RSA)
              (Shape.simple none) TS_ACCOUNT_PASSWORD_DES
              (Struct.object "passwordAes" (since EPIC_8_1_1_RSA)
                (Shape.simple none) TS_ACCOUNT_PASSWORD_AES
                (Struct.object "additionalInfos" (upTo EPIC_9_6_6)
                  Shape.endarray TS_ACCOUNT_ADDITIONAL_INFO
                  Struct.nil))))))

def TS_IMBC_ACCOUNT_PASSWORD_PLAIN : Struct :=
  Struct.field "password" always (Metatype.array uint8 uint8 48 none)
    Struct.nil

def TS_IMBC_ACCOUNT_PASSWORD_AES : Struct :=
  Struct.field "password_size" always (Metatype.simple uint32 uint32 none)
    (Struct.field "password" always (Metatype.endarray uint8 uint8)
      Struct.nil)

def TS_CA_IMBC_ACCOUNT : PacketType where
  getId _ := 10012
  fields :=
    Struct.field "account" (since EPIC_9_6_6) (Metatype.string 64 none)
      (Struct.field "account" (within EPIC_7_4 EPIC_9_6_6)
        (Metatype.string 61 none)
        (Struct.field "account" (upTo EPIC_7_4) (Metatype.string 24 none)
          (Struct.object "passwordPlain" (upTo EPIC_8_1_1_RSA)
            (Shape.simple none) TS_IMBC_ACCOUNT_PASSWORD_PLAIN
            (Struct.object "passwordAes" (since EPIC_8_1_1_RSA)
              (Shape.simple none) TS_IMBC_ACCOUNT_PASSWORD_AES
              Struct.nil))))

def TS_CA_RSA_PUBLIC_KEY : PacketType where
  getId version := if atLeast EPIC_9_6_3 version then 1071 else 71
  fields :=
    Struct.field "key" always (Metatype.count int32 Container.vector none)
      (Struct.field "key" always (Metatype.dynarray uint8 uint8) Struct.nil)

def TS_CA_SERVER_LIST : PacketType where
  getId _ := 10021
  fields := Struct.nil

end Auth
end Rzu
