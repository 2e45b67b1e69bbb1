import MensajeroX.Propiedades.Historial
import MensajeroX.Propiedades.Formato
import MensajeroX.Propiedades.Identificadores
import MensajeroX.Propiedades.Conversaciones
import MensajeroX.Propiedades.IdConversacion
import MensajeroX.Propiedades.Indice
import MensajeroX.Propiedades.Sesiones
import MensajeroX.Propiedades.Perfiles
import MensajeroX.Propiedades.Consultas
import MensajeroX.Propiedades.Respuestas
import MensajeroX.Propiedades.Destinatarios
import MensajeroX.Propiedades.Fallos
import MensajeroX.Propiedades.Lugares
import MensajeroX.Propiedades.Trozos
import MensajeroX.Propiedades.Resumen
import MensajeroX.Cliente.Sincronizacion
import MensajeroX.Cliente.Conversaciones
import MensajeroX.Cliente.Usuarios
import MensajeroX.Cliente.ChatAdapter
import MensajeroX.WebServer.Memoria
import MensajeroX.WebServer.Red
import MensajeroX.Cliente.RestClient
import MensajeroX.Cliente.Tareas
import MensajeroX.Cliente.Autenticacion
import MensajeroX.Sistema.Mensajes
import MensajeroX.Sistema.Sesiones
import MensajeroX.Sistema.Aislamiento
import MensajeroX.Propiedades.Relevancia
